import CloudDetector.Proofs.Detection

namespace CloudDetector

/-- What use makes of a source: a shared policy may have been asked, and any other source is as it
was. -/
inductive PolicySource.Used : PolicySource → PolicySource → Prop
  | unchanged (source : PolicySource) : Used source source
  | asked (before after : Query.Policy) : Used (shared before) (shared after)

theorem PolicySource.Used.giveBack {source used : PolicySource} (h : Used source used)
    (policy : Query.Policy) : Used source (used.giveBack policy) := by
  cases h with
  | unchanged =>
    cases source with
    | fresh p => exact .unchanged _
    | shared p => exact .asked p policy
    | failing fault => exact .unchanged _
  | asked before after => exact .asked before policy

theorem PolicySource.Used.of_unshared {source used : PolicySource} (h : Used source used)
    (hs : ∀ policy, source ≠ .shared policy) : used = source := by
  cases h with
  | unchanged => rfl
  | asked before after => exact absurd rfl (hs before)

theorem PolicySource.Used.of_shared {first : Query.Policy} {used : PolicySource}
    (h : Used (shared first) used) : ∃ policy, used = shared policy := by
  cases h with
  | unchanged => exact ⟨first, rfl⟩
  | asked before after => exact ⟨after, rfl⟩

/-- A detector is as its configuration makes it, but for what use leaves. -/
structure Detector.Formed (c : Config) (d : Detector) : Prop where
  config : d.config = c
  url : d.url = Query.url c.endpoint
  source : PolicySource.Used c.retry d.source

namespace Detector

theorem formed_new (config : Config) : Formed config (.new config) := ⟨rfl, rfl, .unchanged _⟩

theorem Formed.detect {config : Config} {d : Detector} (h : Formed config d)
    (environment : Resource.Environment) (host : Host) :
    Formed config (d.detect environment host).detector := by
  obtain ⟨hconfig, hurl⟩ := d.detect_config environment host
  refine ⟨hconfig.trans h.config, hurl.trans h.url, ?_⟩
  cases hc : d.cache with
  | some attributes =>
    rw [detect_kept hc]
    exact h.source
  | none =>
    cases hs : d.source.take with
    | error fault =>
      rw [(detect_unmade hc hs environment host).2.1]
      exact h.source
    | ok policy =>
      rw [(detect_made (attempts_of_take hc hs) environment).2.1]
      exact h.source.giveBack _

end Detector

namespace World

def kept? (w : World) (id : Text) : Option Attributes := (w.detectors.get? id).bind Detector.cache

/-- One step of a detector's life: it is detected with, or nothing happens to it. -/
theorem life_step {w : World} {id : Text} {d : Detector} (hd : w.detectors.get? id = some d)
    {s : Step} (hs : ∀ config, s ≠ .create id config) :
    (s = .detect id ∧ (w.step s).2.detectors.get? id =
      some (d.detect w.environment w.host).detector) ∨
    (s ≠ .detect id ∧ (w.step s).2.detectors.get? id = some d) := by
  by_cases he : s = .detect id
  · subst s
    exact .inl ⟨rfl, (step_detect hd).2⟩
  · exact .inr ⟨he, (w.step_detectors_of_ne hs he).trans hd⟩

theorem never_created_cons {id : Text} {s : Step} {life : List Step}
    (h : ∀ other, .create id other ∉ s :: life) :
    (∀ other, s ≠ .create id other) ∧ ∀ other, .create id other ∉ life := by
  refine ⟨?_, ?_⟩
  · intro other he
    exact h other (he ▸ List.mem_cons_self)
  · intro other hm
    exact h other (List.mem_cons_of_mem s hm)

theorem never_created_append {id : Text} {earlier later : List Step}
    (h : ∀ other, .create id other ∉ earlier ++ later) :
    (∀ other, .create id other ∉ earlier) ∧ ∀ other, .create id other ∉ later := by
  refine ⟨?_, ?_⟩
  · intro other hm
    exact h other (List.mem_append_left later hm)
  · intro other hm
    exact h other (List.mem_append_right earlier hm)

/-- What detections keep true of a detector is true of it for life. -/
theorem life_invariant {I : Detector → Prop}
    (hdetect : ∀ d environment host, I d → I (d.detect environment host).detector)
    {w : World} {id : Text} {d : Detector} (hd : w.detectors.get? id = some d) (hI : I d)
    {life : List Step} (hlife : ∀ other, .create id other ∉ life) :
    ∃ d', (w.after life).detectors.get? id = some d' ∧ I d' := by
  induction life generalizing w d with
  | nil => exact ⟨d, hd, hI⟩
  | cons s life ih =>
    obtain ⟨hs, hrest⟩ := never_created_cons hlife
    rcases life_step hd hs with ⟨_, hn⟩ | ⟨_, hn⟩
    · exact ih hn (hdetect d w.environment w.host hI) hrest
    · exact ih hn hI hrest

def Report.events : Report → List Event
  | .detected _ events => events
  | _ => []

/-- What is seen of a step, if it is a detection under this name. -/
def seenAt (w : World) (id : Text) (s : Step) : List Event :=
  match s with
  | .detect id' => if id' = id then (w.step s).1.events else []
  | _ => []

/-- What is seen of all detections under a name in the course of the steps. -/
def seen (w : World) (id : Text) : List Step → List Event
  | [] => []
  | s :: steps => w.seenAt id s ++ (w.step s).2.seen id steps

theorem seenAt_detect {w : World} {id : Text} {d : Detector} (hd : w.detectors.get? id = some d) :
    w.seenAt id (.detect id) = (d.detect w.environment w.host).events := by
  rw [seenAt, if_pos rfl, (step_detect hd).1]
  rfl

theorem seenAt_of_ne (w : World) {id : Text} {s : Step} (h : s ≠ .detect id) :
    w.seenAt id s = [] := by
  cases s with
  | detect id' =>
    have hne : id' ≠ id := fun he => h (he ▸ rfl)
    exact if_neg hne
  | _ => rfl

end World

end CloudDetector
