import CloudDetector.Proofs.Detection
import CloudDetector.Proofs.Vocabulary

namespace CloudDetector

namespace Detector
open Trace

/-- Who told what, and how urgently. -/
def told (r : Log.Record) : Log.Logger × Log.Level × Text := (r.logger, r.level, r.message.text)

/-- Where a fault can come from. -/
inductive Escapes (d : Detector) (host : Host) (events : List Event) (fault : Fault) : Prop
  | factory (uncached : d.cache = none) (unmade : d.source.take = .error fault)
      (unsent : requests events = [])
  | fetch (uncached : d.cache = none) (sent : requests events ≠ [])
      (last : host.lastResult events = .error fault)
  | policy (policy : Query.Policy) (reason : Reason) (uncached : d.cache = none)
      (made : d.source.take = .ok policy) (sent : requests events ≠ [])
      (last : host.lastResult events = .ok (.retryable reason))
      (verdict : policy.verdict ((requests events).length - 1) = .raise fault)

/-- How the options of a detector have a fault reported: it is handed on, or else told once as a
warning. -/
def ReportsFault (d : Detector) (fault : Fault) (answer : Except Fault Attributes)
    (events : List Event) : Prop :=
  if d.config.raiseOnError then answer = .error fault ∧ loud events = []
  else answer = .ok Table.empty ∧ (loud events).map told = [(d.config.logger, .warning,
    "GoogleCloudResourceDetector failed: " ++ fault.text)]

variable {d : Detector} {environment : Resource.Environment} {host : Host}
  {answer : Except Fault Attributes} {events : List Event}

/-- Breaking off reports the fault and sends nothing. -/
theorem break_off_reports (d : Detector) (fault : Fault) (events : List Event) (host : Host)
    (hq : loud events = []) :
    requests (d.breakOff fault events host).events = requests events ∧
      ReportsFault d fault (d.breakOff fault events host).answer
        (d.breakOff fault events host).events := by
  unfold ReportsFault breakOff
  split
  · exact ⟨rfl, rfl, hq⟩
  · refine ⟨?_, rfl, ?_⟩
    · rw [requests_append]
      exact List.append_nil _
    · rw [loud_append, hq]
      rfl

/-- A fault of the attempts came from the last request or from the policy. -/
theorem escapes_of_attempts {tried : Query.Attempts} {fault : Fault}
    (made : d.attempts? host = some tried) (result : tried.result = .error fault)
    (he : requests events = requests tried.events) : Escapes d host events fault := by
  obtain ⟨uncached, policy, hs, rfl⟩ := attempts_made made
  have hlast : host.lastResult events = host.lastResult (Query.attempts d.url policy host).events :=
    by simp only [Host.lastResult, he]
  have hsent : requests events ≠ [] := he ▸ Query.attempts_send d.url policy host
  rcases Query.attempts_result d.url policy host with hr | ⟨reason, fault', hl, hv, hr⟩
  · exact .fetch uncached hsent (hlast.trans (hr.symm.trans result))
  · have hf : fault' = fault := by
      rw [hr] at result
      exact Except.error.inj result
    exact .policy policy reason uncached hs hsent (hlast.trans hl) (by rw [he, hv, hf])

end Detector

namespace World
open Detector

end World

end CloudDetector
