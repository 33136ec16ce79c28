import CloudDetector.Host
import CloudDetector.Query.Judgement

namespace CloudDetector.Query

structure Fetched where
  result : Except Fault Outcome
  events : List Event
  host : Host

/-- One try. Instrumentation is suppressed while the request is out and for nothing else. -/
def fetch (url : Text) (host : Host) : Fetched :=
  let (previous, host) := host.attach host.context.suppress
  let (reply, sent, host) := host.get (request url)
  let host := host.detach previous
  let judgement := judge reply
  ⟨judgement.result, sent :: judgement.records.map (fun r => host.event (.log r)), host⟩

end CloudDetector.Query
