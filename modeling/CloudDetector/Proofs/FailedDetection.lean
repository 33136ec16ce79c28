import CloudDetector.Proofs.Alike
import CloudDetector.Proofs.BackoffBudget
import CloudDetector.Proofs.CacheLife

namespace CloudDetector
open Trace

namespace Detector

/-- The host has answered what was sent, and nothing else about it has changed. -/
theorem detect_host (d : Detector) (environment : Resource.Environment) (host : Host) :
    (d.detect environment host).host =
      host.answered (requests (d.detect environment host).events).length := by
  cases hc : d.cache with
  | some attributes =>
    rw [detect_kept hc]
    rfl
  | none =>
    cases hs : d.source.take with
    | error fault =>
      rw [(detect_unmade hc hs environment host).2.2, detect_unmade_sends hc hs environment host]
      rfl
    | ok policy =>
      have made : d.attempts? host = some (Query.attempts d.url policy host) :=
        attempts_of_take hc hs
      obtain ⟨_, _, hhost⟩ := detect_made made environment
      obtain ⟨n, hcourse⟩ := Query.attempts_course d.url policy host
      rw [hhost, hcourse.host, detect_made_sends made, hcourse.requests, List.length_replicate]

/-- A shared policy is left as far on as it was asked. -/
theorem detect_shared {d : Detector} {policy : Query.Policy} (hc : d.cache = none)
    (hs : d.source = .shared policy) (environment : Resource.Environment) (host : Host) :
    (d.detect environment host).detector.source =
      .shared (policy.asked (times .consult (d.detect environment host).events)) := by
  obtain ⟨⟨rs, he⟩, hsource, _⟩ :=
    detect_made (attempts_of_take hc (congrArg PolicySource.take hs)) environment
  obtain ⟨n, hcourse⟩ := Query.attempts_course d.url policy host
  have hasked : times .consult (d.detect environment host).events =
      times .consult (Query.attempts d.url policy host).events := by
    rw [he, times_between rfl]
    exact Nat.zero_add _
  rw [hsource, hs, hasked, hcourse.left]
  rfl

/-- Without attributes a detector that does not share its policy is like a new one. -/
theorem Formed.alike_new {config : Config} {d : Detector} (h : Formed config d)
    (hc : d.cache = none) (hr : ∀ policy, config.retry ≠ .shared policy) :
    d.Alike (.new config) :=
  ⟨h.url, h.source.of_unshared hr, hc, by rw [h.config]; rfl, by rw [h.config]; rfl⟩

/-- One that shares its policy is like a new one to which that policy is given. -/
theorem Formed.alike_given {config : Config} {d : Detector} {policy : Query.Policy}
    (h : Formed config d) (hc : d.cache = none) (hs : d.source = .shared policy) :
    d.Alike (.new { config with retry := .shared policy }) :=
  ⟨h.url, hs, hc, by rw [h.config]; rfl, by rw [h.config]; rfl⟩

end Detector

namespace World

/-- From here on a run reports the same as if the detector were made anew. -/
def Restarts (w : World) (id : Text) (config : Config) : Prop :=
  ∀ later, w.run later = (w.step (.create id config)).2.run later

theorem formed_in_run (environment : Resource.Environment) (host : Host) (before : List Step)
    (id : Text) (d : Detector)
    (hd : ((start environment host).after before).detectors.get? id = some d) :
    Detector.Formed d.config d := by
  refine detector_invariant (I := fun d => Detector.Formed d.config d) ?_ ?_ environment host before
    id d hd
  · intro config
    exact Detector.formed_new config
  · intro d environment host h
    have hformed := h.detect environment host
    rw [← (d.detect_config environment host).1] at hformed
    exact hformed

/-- A detection that finds nothing leaves nothing behind, in whatever way it fails: the server has
answered what was sent, and the rest of the run is as with a new detector. Only a policy that is
shared is left as far on as it was asked. -/
theorem failed_detection_leaves_no_trace (environment : Resource.Environment) (host : Host)
    (before : List Step) (id : Text) (d : Detector)
    (hd : ((start environment host).after before).detectors.get? id = some d)
    (hc : d.cache = none)
    (hf : ∀ document, ¬d.Finds ((start environment host).after before).host document) :
    let w := (start environment host).after before
    let left := (w.step (.detect id)).2
    ∃ answer events, (w.step (.detect id)).1 = .detected answer events ∧
      left.kept? id = none ∧ left.environment = w.environment ∧
      left.host = w.host.answered (requests events).length ∧
      ((∀ policy, d.config.retry ≠ .shared policy) → left.Restarts id d.config) ∧
      ∀ first, d.config.retry = .shared first → ∃ policy, d.source = .shared policy ∧
        left.Restarts id
          { d.config with retry := .shared (policy.asked (times .consult events)) } := by
  intro w left
  have hformed := formed_in_run environment host before id d hd
  have hformed' := hformed.detect w.environment w.host
  have hcache := Detector.detect_nothing hc hf w.environment
  obtain ⟨hreport, hleft⟩ := step_detect hd
  have hstep : left = { w with
      host := (d.detect w.environment w.host).host,
      detectors := w.detectors.put id (d.detect w.environment w.host).detector } := by
    simp only [left, step, w, hd]
  refine ⟨_, _, hreport, ?_, ?_, ?_, ?_, ?_⟩
  · change (left.detectors.get? id).bind Detector.cache = none
    rw [hleft]
    exact hcache
  · rw [hstep]
  · rw [hstep]
    exact d.detect_host w.environment w.host
  · intro hr later
    exact alike_run (alike_create hleft (hformed'.alike_new hcache hr)) later
  · intro first hr
    have hused := hformed.source
    rw [hr] at hused
    obtain ⟨policy, hs⟩ := hused.of_shared
    have hs' := Detector.detect_shared hc hs w.environment w.host
    refine ⟨policy, hs, ?_⟩
    intro later
    exact alike_run (alike_create hleft (hformed'.alike_given hcache hs')) later

/-- A fault on the second try, after a delay was waited out, is handed on and leaves no trace but in
the policy that is shared. -/
theorem fault_after_delay_leaves_no_trace :
    let fault : Fault := .other "KeyError" "k"
    let host : Host := ⟨Table.empty, .ofScript (.response ⟨503, .ofFields [], .ofBytes []⟩) [.broken fault]⟩
    let policy : Query.Policy := .ofDelays [.seconds 1, .seconds 2]
    let config : Config := { raiseOnError := true, retry := .shared policy }
    let w := (start Table.empty host).after [.create "here" config]
    let left := (w.step (.detect "here")).2
    w.detectors.get? "here" = some (.new config) ∧ (Detector.new config).cache = none ∧
    (∀ document, ¬(Detector.new config).Finds w.host document) ∧
    left.kept? "here" = none ∧
    ∃ n, left.Restarts "here" { config with retry := .shared (policy.asked n) } := by
  intro fault host policy config w left
  have hd : w.detectors.get? "here" = some (.new config) := step_create _ _ _
  have hraised : (Query.attempts (Detector.new config).url policy host).result = .error fault := by
    apply Query.attempts_backoff_raises.mpr
    refine ⟨1, by decide, ?_, rfl⟩
    intro i hi
    obtain rfl : i = 0 := by omega
    exact ⟨.status 503, rfl⟩
  have hf : ∀ document, ¬(Detector.new config).Finds w.host document := by
    intro document hfinds
    obtain ⟨tried, made, result⟩ := hfinds
    obtain ⟨_, given, hs, rfl⟩ := Detector.attempts_made made
    cases hs
    rw [show w.host = host from rfl, hraised] at result
    cases result
  obtain ⟨_, _, _, hkept, _, _, _, hshared⟩ :=
    failed_detection_leaves_no_trace Table.empty host [.create "here" config] "here" _ hd rfl hf
  obtain ⟨given, hs, hrestarts⟩ := hshared policy rfl
  cases hs
  exact ⟨hd, rfl, hf, hkept, _, hrestarts⟩

end World

end CloudDetector
