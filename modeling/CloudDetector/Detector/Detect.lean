import CloudDetector.Detector.Basic

namespace CloudDetector.Detector

/-- The answer of one detection, what was done for it, and what is left behind. No attributes at
all mean that nothing was found. -/
structure Detection where
  answer : Except Fault Attributes
  events : List Event
  detector : Detector
  host : Host

def unavailable (d : Detector) (reason : Reason) : Log.Record :=
  ⟨d.config.logger, .info, .unavailable reason⟩

def detectionFailed (d : Detector) (fault : Fault) : Log.Record :=
  ⟨d.config.logger, .warning, .detectionFailed fault⟩

/-- Ends a detection that a fault has broken off. -/
def breakOff (d : Detector) (fault : Fault) (events : List Event) (host : Host) : Detection :=
  if d.config.raiseOnError then ⟨.error fault, events, d, host⟩
  else ⟨.ok Table.empty, events ++ [host.event (.log (d.detectionFailed fault))], d, host⟩

/-- Ends a detection that ran its course. Only a document is kept. -/
def conclude (d : Detector) (environment : Resource.Environment) (outcome : Outcome)
    (events : List Event) (host : Host) : Detection :=
  match outcome with
  | .success document =>
    let attributes := Resource.classify document environment
    ⟨.ok attributes, events, { d with cache := some attributes }, host⟩
  | .retryable reason | .fatal reason =>
    ⟨.ok Table.empty, events ++ [host.event (.log (d.unavailable reason))], d, host⟩

def detect (d : Detector) (environment : Resource.Environment) (host : Host) : Detection :=
  match d.cache with
  | some attributes => ⟨.ok attributes, [], d, host⟩
  | none =>
    let taken := host.event .takePolicy
    match d.source.take with
    | .error fault => d.breakOff fault [taken] host
    | .ok policy =>
      let tried := Query.attempts d.url policy host
      let d := { d with source := d.source.giveBack tried.policy }
      match tried.result with
      | .error fault => d.breakOff fault (taken :: tried.events) tried.host
      | .ok outcome => d.conclude environment outcome (taken :: tried.events) tried.host

end CloudDetector.Detector
