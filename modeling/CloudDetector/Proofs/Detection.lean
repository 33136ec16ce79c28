import CloudDetector.Proofs.TryCourse
import CloudDetector.Detector.Run

namespace CloudDetector
open Trace

namespace Detector

/-- The attempts that a detection makes: none where attributes are kept, and none where no policy
can be made. -/
def attempts? (d : Detector) (host : Host) : Option Query.Attempts :=
  match d.cache, d.source.take with
  | none, .ok policy => some (Query.attempts d.url policy host)
  | _, _ => none

/-- The detector once the attempts' policy is given back. -/
def giveBack (d : Detector) (tried : Query.Attempts) : Detector :=
  { d with source := d.source.giveBack tried.policy }

/-- The ways in which a detection ends, each with all that it leaves. -/
inductive Ends (d : Detector) (environment : Resource.Environment) (host : Host) :
    Detection → Prop
  | kept (attributes : Attributes) (cached : d.cache = some attributes) :
      Ends d environment host ⟨.ok attributes, [], d, host⟩
  | unmade (fault : Fault) (uncached : d.cache = none) (unmade : d.source.take = .error fault) :
      Ends d environment host (d.breakOff fault [host.event .takePolicy] host)
  | broken (tried : Query.Attempts) (fault : Fault) (made : d.attempts? host = some tried)
      (result : tried.result = .error fault) :
      Ends d environment host ((d.giveBack tried).breakOff fault
        (host.event .takePolicy :: tried.events) tried.host)
  | unavailable (tried : Query.Attempts) (reason : Reason) (made : d.attempts? host = some tried)
      (result : tried.result = .ok (.retryable reason) ∨ tried.result = .ok (.fatal reason)) :
      Ends d environment host ⟨.ok Table.empty,
        host.event .takePolicy :: tried.events ++ [tried.host.event (.log (d.unavailable reason))],
        d.giveBack tried, tried.host⟩
  | found (tried : Query.Attempts) (document : Json) (made : d.attempts? host = some tried)
      (result : tried.result = .ok (.success document)) :
      Ends d environment host ⟨.ok (Resource.classify document environment),
        host.event .takePolicy :: tried.events,
        { d.giveBack tried with cache := some (Resource.classify document environment) },
        tried.host⟩

theorem detect_ends (d : Detector) (environment : Resource.Environment) (host : Host) :
    Ends d environment host (d.detect environment host) := by
  unfold detect
  split
  · rename_i attributes hc
    exact .kept attributes hc
  · rename_i hc
    dsimp only
    split
    · rename_i fault hs
      exact .unmade fault hc hs
    · rename_i policy hs
      have hmade : d.attempts? host = some (Query.attempts d.url policy host) := by
        simp only [attempts?, hc, hs]
      cases hr : (Query.attempts d.url policy host).result with
      | error fault => exact .broken _ fault hmade hr
      | ok outcome =>
        cases outcome with
        | success document => exact .found _ document hmade hr
        | retryable reason => exact .unavailable _ reason hmade (.inl hr)
        | fatal reason => exact .unavailable _ reason hmade (.inr hr)

theorem break_off_detector (d : Detector) (fault : Fault) (events : List Event) (host : Host) :
    (d.breakOff fault events host).detector = d := by
  unfold breakOff
  split <;> rfl

theorem break_off_leaves (d : Detector) (fault : Fault) (events : List Event) (host : Host) :
    (∃ rs : List Log.Record, (d.breakOff fault events host).events =
      events ++ rs.map (fun r => host.event (.log r))) ∧
    (d.breakOff fault events host).host = host := by
  unfold breakOff
  split
  · exact ⟨⟨[], (List.append_nil _).symm⟩, rfl⟩
  · exact ⟨⟨[_], rfl⟩, rfl⟩

theorem attempts_made {d : Detector} {host : Host} {tried : Query.Attempts}
    (h : d.attempts? host = some tried) :
    d.cache = none ∧ ∃ policy, d.source.take = .ok policy ∧
      tried = Query.attempts d.url policy host := by
  unfold attempts? at h
  split at h
  · rename_i policy hc hs
    exact ⟨hc, policy, hs, (Option.some.inj h).symm⟩
  · cases h

theorem attempts_of_take {d : Detector} {host : Host} {policy : Query.Policy} (hc : d.cache = none)
    (hs : d.source.take = .ok policy) :
    d.attempts? host = some (Query.attempts d.url policy host) := by
  simp only [attempts?, hc, hs]

theorem detect_kept {d : Detector} {attributes : Attributes} (h : d.cache = some attributes)
    (environment : Resource.Environment) (host : Host) :
    d.detect environment host = ⟨.ok attributes, [], d, host⟩ := by
  simp only [detect, h]

theorem detect_without_policy {d : Detector} {fault : Fault} (hc : d.cache = none)
    (hs : d.source.take = .error fault) (environment : Resource.Environment) (host : Host) :
    d.detect environment host = d.breakOff fault [host.event .takePolicy] host := by
  simp only [detect, hc, hs]

theorem detect_broken {d : Detector} {host : Host} {tried : Query.Attempts} {fault : Fault}
    (made : d.attempts? host = some tried) (result : tried.result = .error fault)
    (environment : Resource.Environment) : d.detect environment host =
      (d.giveBack tried).breakOff fault (host.event .takePolicy :: tried.events) tried.host := by
  obtain ⟨config, url, source, cache⟩ := d
  obtain ⟨rfl, policy, hs, rfl⟩ := attempts_made made
  simp only [detect, hs, result]
  rfl

theorem detect_ended {d : Detector} {host : Host} {tried : Query.Attempts} {outcome : Outcome}
    (made : d.attempts? host = some tried) (result : tried.result = .ok outcome)
    (environment : Resource.Environment) : d.detect environment host =
      (d.giveBack tried).conclude environment outcome (host.event .takePolicy :: tried.events)
        tried.host := by
  obtain ⟨config, url, source, cache⟩ := d
  obtain ⟨rfl, policy, hs, rfl⟩ := attempts_made made
  simp only [detect, hs, result]
  rfl

/-- Without a policy nothing is tried, and what is told is all that follows. -/
theorem detect_unmade {d : Detector} {fault : Fault} (hc : d.cache = none)
    (hs : d.source.take = .error fault) (environment : Resource.Environment) (host : Host) :
    (∃ rs : List Log.Record, (d.detect environment host).events =
      host.event .takePolicy :: rs.map (fun r => host.event (.log r))) ∧
    (d.detect environment host).detector = d ∧ (d.detect environment host).host = host := by
  obtain ⟨hrecords, hhost⟩ := d.break_off_leaves fault [host.event .takePolicy] host
  rw [detect_without_policy hc hs]
  exact ⟨hrecords, d.break_off_detector fault _ host, hhost⟩

theorem detect_unmade_sends {d : Detector} {fault : Fault} (hc : d.cache = none)
    (hs : d.source.take = .error fault) (environment : Resource.Environment) (host : Host) :
    requests (d.detect environment host).events = [] := by
  obtain ⟨⟨rs, he⟩, _, _⟩ := detect_unmade hc hs environment host
  rw [he]
  exact requests_between host host [] rs

/-- Between the handing out of a policy and what is told of the end stand the attempts, and their
policy and host are left. -/
theorem detect_made {d : Detector} {host : Host} {tried : Query.Attempts}
    (h : d.attempts? host = some tried) (environment : Resource.Environment) :
    (∃ rs : List Log.Record, (d.detect environment host).events =
      host.event .takePolicy :: tried.events ++ rs.map (fun r => tried.host.event (.log r))) ∧
    (d.detect environment host).detector.source = d.source.giveBack tried.policy ∧
    (d.detect environment host).host = tried.host := by
  have hends := d.detect_ends environment host
  generalize d.detect environment host = detection at hends ⊢
  cases hends with
  | kept attributes cached =>
    rw [(attempts_made h).1] at cached
    cases cached
  | unmade fault uncached unmade =>
    obtain ⟨_, policy, hs, _⟩ := attempts_made h
    rw [hs] at unmade
    cases unmade
  | broken tried' fault made result =>
    obtain rfl := Option.some.inj (made.symm.trans h)
    obtain ⟨hrecords, hhost⟩ := (d.giveBack tried').break_off_leaves fault
      (host.event .takePolicy :: tried'.events) tried'.host
    exact ⟨hrecords, congrArg Detector.source (break_off_detector _ fault _ _), hhost⟩
  | unavailable tried' reason made result =>
    obtain rfl := Option.some.inj (made.symm.trans h)
    exact ⟨⟨[_], rfl⟩, rfl, rfl⟩
  | found tried' document made result =>
    obtain rfl := Option.some.inj (made.symm.trans h)
    exact ⟨⟨[], (List.append_nil _).symm⟩, rfl, rfl⟩

/-- All that a detection sends its attempts send. -/
theorem detect_made_sends {d : Detector} {host : Host} {tried : Query.Attempts}
    (h : d.attempts? host = some tried) (environment : Resource.Environment) :
    requests (d.detect environment host).events = requests tried.events := by
  obtain ⟨⟨rs, he⟩, _, _⟩ := detect_made h environment
  rw [he, requests_between]

theorem detect_config (d : Detector) (environment : Resource.Environment) (host : Host) :
    (d.detect environment host).detector.config = d.config ∧
      (d.detect environment host).detector.url = d.url := by
  have hends := d.detect_ends environment host
  generalize d.detect environment host = detection at hends ⊢
  cases hends with
  | unmade fault uncached unmade => rw [break_off_detector]; exact ⟨rfl, rfl⟩
  | broken tried fault made result => rw [break_off_detector]; exact ⟨rfl, rfl⟩
  | _ => exact ⟨rfl, rfl⟩

end Detector

namespace World

/-- Nothing but its own creation and its own detections changes what stands under a name. -/
theorem step_detectors_of_ne (w : World) {s : Step} {id : Text}
    (hcreate : ∀ config, s ≠ .create id config) (hdetect : s ≠ .detect id) :
    (w.step s).2.detectors.get? id = w.detectors.get? id := by
  cases s with
  | create id' config =>
    have hne : id ≠ id' := fun he => hcreate config (he ▸ rfl)
    exact (w.detectors.get?_put id' id _).trans (if_neg hne)
  | setVariable name value => rfl
  | unsetVariable name => rfl
  | serve server => rfl
  | detect id' =>
    have hne : id ≠ id' := fun he => hdetect (he ▸ rfl)
    simp only [step]
    split
    · rfl
    · exact (w.detectors.get?_put id' id _).trans (if_neg hne)

theorem step_create (w : World) (id : Text) (config : Config) :
    (w.step (.create id config)).2.detectors.get? id = some (.new config) :=
  (w.detectors.get?_put id id _).trans (if_pos rfl)

theorem step_detect {w : World} {id : Text} {d : Detector} (h : w.detectors.get? id = some d) :
    (w.step (.detect id)).1 = .detected (d.detect w.environment w.host).answer
      (d.detect w.environment w.host).events ∧
    (w.step (.detect id)).2.detectors.get? id =
      some (d.detect w.environment w.host).detector := by
  simp only [step, h, true_and]
  exact (w.detectors.get?_put id id _).trans (if_pos rfl)

/-- What stands under a name after a step was made in it, or was detected with, or stood there
before. -/
theorem detector_of_step {w : World} {s : Step} {id : Text} {d : Detector}
    (h : (w.step s).2.detectors.get? id = some d) :
    (∃ config, s = .create id config ∧ d = .new config) ∨
    (s = .detect id ∧ ∃ old, w.detectors.get? id = some old ∧
      d = (old.detect w.environment w.host).detector) ∨
    ((∀ config, s ≠ .create id config) ∧ s ≠ .detect id ∧ w.detectors.get? id = some d) := by
  by_cases hcreate : ∃ config, s = .create id config
  · obtain ⟨config, rfl⟩ := hcreate
    rw [step_create] at h
    exact .inl ⟨config, rfl, (Option.some.inj h).symm⟩
  · have hnever : ∀ config, s ≠ .create id config := not_exists.mp hcreate
    by_cases hs : s = .detect id
    · subst s
      cases hold : w.detectors.get? id with
      | none =>
        simp only [step, hold] at h
        cases h
      | some old =>
        rw [(step_detect hold).2] at h
        exact .inr (.inl ⟨rfl, old, rfl, (Option.some.inj h).symm⟩)
    · rw [w.step_detectors_of_ne hnever hs] at h
      exact .inr (.inr ⟨hnever, hs, h⟩)

/-- What new detectors have and detections keep, all detectors of a run have. -/
theorem detector_invariant {I : Detector → Prop} (hnew : ∀ config, I (.new config))
    (hdetect : ∀ d environment host, I d → I (d.detect environment host).detector)
    (environment : Resource.Environment) (host : Host) (steps : List Step) (id : Text)
    (d : Detector) (hd : ((start environment host).after steps).detectors.get? id = some d) :
    I d := by
  have hrun : ∀ (steps : List Step) (w : World),
      (∀ id d, w.detectors.get? id = some d → I d) →
      ∀ id d, (w.after steps).detectors.get? id = some d → I d := by
    intro steps
    induction steps with
    | nil => exact fun w hw => hw
    | cons s steps ih =>
      intro w hw
      apply ih
      intro id d hd
      rcases detector_of_step hd with ⟨config, _, rfl⟩ | ⟨_, old, hold, rfl⟩ | ⟨_, _, hd⟩
      · exact hnew config
      · exact hdetect old w.environment w.host (hw id old hold)
      · exact hw id d hd
  exact hrun steps _ (by intro id d h; cases h) id d hd

end World

end CloudDetector
