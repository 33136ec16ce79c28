import CloudDetector.Query.Fetch
import CloudDetector.Query.Policy

namespace CloudDetector.Query

structure Attempts where
  result : Except Fault Outcome
  events : List Event
  policy : Policy
  host : Host

def retryReason? : Except Fault Outcome → Option Reason
  | .ok (.retryable reason) => some reason
  | _ => none

def requestFailed (reason : Reason) : Log.Record := ⟨.retrying, .debug, .requestFailed reason⟩

/-- Fetches until the outcome is settled or the policy has had enough; then the last outcome
stands. -/
def attempts (url : Text) (policy : Policy) (host : Host) : Attempts :=
  let fetched := fetch url host
  let host := fetched.host
  match retryReason? fetched.result with
  | none => ⟨fetched.result, fetched.events, policy, host⟩
  | some reason =>
    let events := fetched.events ++ [host.event (.log (requestFailed reason)), host.event .consult]
    match _asked : policy.ask with
    | (.again delay, next) =>
      let waits := delay.toList.map (fun d => host.event (.wait d))
      let rest := attempts url next host
      { rest with events := events ++ waits ++ rest.events }
    | (.stop, next) => ⟨fetched.result, events, next, host⟩
    | (.raise fault, next) => ⟨.error fault, events, next, host⟩
termination_by policy.remaining
decreasing_by exact Policy.remaining_ask (by assumption)

end CloudDetector.Query
