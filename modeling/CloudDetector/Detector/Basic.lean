import CloudDetector.Resource.Classify
import CloudDetector.Query.Attempts

namespace CloudDetector

/-- Where the policy of a detection comes from. A source does the same at each detection, and its
policies grant only so many tries. -/
inductive PolicySource
  /-- A new one for each detection. -/
  | fresh (policy : Query.Policy)
  /-- The same one every time, in the state that the last detection left. No other detector uses it. -/
  | shared (policy : Query.Policy)
  /-- No policy can be made. -/
  | failing (fault : Fault)
deriving DecidableEq

namespace PolicySource

/-- A source that makes a policy when one is asked for. -/
def ofMaker : Except Fault Query.Policy → PolicySource
  | .ok policy => fresh policy
  | .error fault => failing fault

/-- A source that makes its only policy in advance; where that fails there is no source. -/
def sharing (maker : Except Fault Query.Policy) : Except Fault PolicySource := maker.map shared

def take : PolicySource → Except Fault Query.Policy
  | fresh policy => .ok policy
  | shared policy => .ok policy
  | failing fault => .error fault

def giveBack (used : Query.Policy) : PolicySource → PolicySource
  | shared _ => shared used
  | source => source

end PolicySource

/-- Whose connection is used. The exchange is the same over either. -/
inductive Session
  | given
  | own
deriving DecidableEq

structure Config where
  endpoint : Text := Query.defaultEndpoint
  raiseOnError : Bool := false
  retry : PolicySource := .fresh .standard
  logger : Log.Logger := .detecting
  session : Session := .given
deriving DecidableEq

/-- Detects the attributes of the resource that a process runs on, and keeps them once found. -/
structure Detector where
  config : Config
  url : Text
  source : PolicySource
  cache : Option Attributes

def Detector.new (config : Config) : Detector :=
  ⟨config, Query.url config.endpoint, config.retry, none⟩

end CloudDetector
