import CloudDetector.Proofs.DetectorLife
import Mathlib.Data.List.DropRight

namespace CloudDetector

namespace Text

/-- The base is the text without any `c` that it ends in. -/
structure Trims (c : CodePoint) (t base : Text) : Prop where
  last : base.getLast? ≠ some c
  rest : ∃ n, t = base ++ List.replicate n c

theorem trims_dropTrailing (c : CodePoint) (t : Text) : Trims c t (dropTrailing c t) where
  last := by
    intro h
    have hne : dropTrailing c t ≠ [] := by
      intro he
      rw [he] at h
      cases h
    rw [List.getLast?_eq_some_getLast hne] at h
    exact List.rdropWhile_last_not (· == c) t hne (beq_iff_eq.mpr (Option.some.inj h))
  rest := by
    have hall : ∀ a ∈ t.rtakeWhile (· == c), a = c := by
      intro a ha
      have heq := List.mem_rtakeWhile_imp ha
      exact beq_iff_eq.mp heq
    refine ⟨(t.rtakeWhile (· == c)).length, ?_⟩
    rw [← List.eq_replicate_of_mem hall]
    exact List.rdropWhile_append_rtakeWhile.symm

theorem dropTrailing_of_last {c : CodePoint} {base : Text} (h : base.getLast? ≠ some c) :
    dropTrailing c base = base := by
  apply List.rdropWhile_eq_self_iff.mpr
  intro hne hc
  rw [List.getLast?_eq_some_getLast hne, beq_iff_eq.mp hc] at h
  exact h rfl

/-- Any number of them at the end go. -/
theorem dropTrailing_append_replicate (c : CodePoint) (t : Text) (n : Nat) :
    dropTrailing c (t ++ List.replicate n c) = dropTrailing c t := by
  induction n with
  | zero => rw [List.replicate_zero, List.append_nil]
  | succ n ih =>
    have hone := List.rdropWhile_concat_pos (· == c) (t ++ List.replicate n c) c (by simp)
    rw [List.replicate_succ', ← List.append_assoc]
    exact hone.trans ih

theorem dropTrailing_eq_iff {c : CodePoint} {t base : Text} :
    dropTrailing c t = base ↔ Trims c t base := by
  constructor
  · intro h
    subst base
    exact trims_dropTrailing c t
  · intro h
    obtain ⟨n, rfl⟩ := h.rest
    rw [dropTrailing_append_replicate, dropTrailing_of_last h.last]

/-- What stands before more than a run of `c` is kept. -/
theorem Trims.behind {c : CodePoint} {t base : Text} (h : Trims c t base) (hne : base ≠ [])
    (before : Text) : Trims c (before ++ t) (before ++ base) where
  last := by
    rw [List.getLast?_append_of_ne_nil before hne]
    exact h.last
  rest := by
    obtain ⟨n, rfl⟩ := h.rest
    exact ⟨n, (List.append_assoc before base _).symm⟩

theorem Trims.ne_nil {c a : CodePoint} {t base : Text} (h : Trims c t base) (ha : a ∈ t)
    (hne : a ≠ c) : base ≠ [] := by
  rintro rfl
  obtain ⟨n, rfl⟩ := h.rest
  exact hne (List.eq_of_mem_replicate ha)

end Text

namespace Query

/-- The path is the same for all, so the base in front of it tells the endpoints apart. -/
theorem url_eq_iff_trims {endpoint base : Text} :
    url endpoint = base ++ documentPath ↔ Text.Trims '/' endpoint base := by
  rw [url, List.append_left_inj, Text.dropTrailing_eq_iff]

/-- What the URL tells of its endpoint, and what it keeps. -/
structure Addresses (endpoint : Text) : Prop where
  based : ∃ base, Text.Trims '/' endpoint base ∧ url endpoint = base ++ documentPath
  told : ∀ other, url endpoint = url other ↔
    ∃ base, Text.Trims '/' endpoint base ∧ Text.Trims '/' other base
  whole : endpoint.getLast? ≠ some '/' → url endpoint = endpoint ++ documentPath
  /-- Slashes before anything else stay. -/
  inner : (∃ c ∈ endpoint, c ≠ '/') → ∀ before, url (before ++ endpoint) = before ++ url endpoint
  /-- A path that is there already is not taken for the one to add. -/
  again : url (endpoint ++ documentPath) = endpoint ++ documentPath ++ documentPath

theorem addresses (endpoint : Text) : Addresses endpoint := by
  have htrims : Text.Trims '/' endpoint (endpoint.dropTrailing '/') :=
    Text.trims_dropTrailing _ endpoint
  have hwhole : ∀ e : Text, e.getLast? ≠ some '/' → url e = e ++ documentPath :=
    fun e h => url_eq_iff_trims.mpr ⟨h, 0, (List.append_nil e).symm⟩
  refine ⟨⟨_, htrims, rfl⟩, ?_, hwhole endpoint, ?_, ?_⟩
  · intro other
    constructor
    · intro h
      exact ⟨_, url_eq_iff_trims.mp h, Text.trims_dropTrailing _ other⟩
    · intro h
      obtain ⟨base, he, ho⟩ := h
      rw [url_eq_iff_trims.mpr he, url_eq_iff_trims.mpr ho]
  · intro h before
    obtain ⟨c, hc, hne⟩ := h
    have hbehind := htrims.behind (htrims.ne_nil hc hne) before
    rw [url_eq_iff_trims.mpr hbehind, url, List.append_assoc]
  · apply hwhole
    rw [List.getLast?_append_of_ne_nil endpoint (by decide)]
    decide

/-- Nothing is left of an endpoint of slashes alone. -/
example : url "//" = documentPath := rfl

/-- Every request of the attempts goes to the same place. -/
theorem attempts_ask (url : Text) (policy : Policy) (host : Host) :
    ∀ r ∈ Trace.requests (attempts url policy host).events, r = request url := by
  obtain ⟨n, hcourse⟩ := attempts_course url policy host
  rw [hcourse.requests]
  exact fun r hr => List.eq_of_mem_replicate hr

end Query

open Trace

theorem Detector.detect_asks (d : Detector) (environment : Resource.Environment) (host : Host) :
    ∀ r ∈ requests (d.detect environment host).events, r = Query.request d.url := by
  intro r hr
  cases hc : d.cache with
  | some attributes =>
    rw [detect_kept hc] at hr
    cases hr
  | none =>
    cases hs : d.source.take with
    | error fault =>
      rw [detect_unmade_sends hc hs] at hr
      cases hr
    | ok policy =>
      rw [detect_made_sends (attempts_of_take hc hs)] at hr
      exact Query.attempts_ask d.url policy host r hr

namespace World

/-- The configuration of a detector that a step makes under a name. -/
def Step.makes? (id : Text) : Step → Option Config
  | create id' config => if id' = id then some config else none
  | _ => none

/-- The configuration of the last detector that was made under a name. -/
def lastMade? (id : Text) (steps : List Step) : Option Config :=
  steps.reverse.findSome? (Step.makes? id)

theorem lastMade_append_step (id : Text) (steps : List Step) (s : Step) :
    lastMade? id (steps ++ [s]) = (s.makes? id).or (lastMade? id steps) := by
  cases h : s.makes? id <;> simp [lastMade?, h]

theorem makes_of_never {id : Text} {s : Step} (h : ∀ config, s ≠ .create id config) :
    s.makes? id = none := by
  cases s with
  | create id' config =>
    have hne : id' ≠ id := fun he => h config (he ▸ rfl)
    exact if_neg hne
  | _ => rfl

/-- A detector of a run is formed by the configuration that it was made with. -/
theorem formed_as_made {environment : Resource.Environment} {host : Host} {steps : List Step}
    {id : Text} {d : Detector}
    (hd : ((start environment host).after steps).detectors.get? id = some d) :
    ∃ config, lastMade? id steps = some config ∧ d.Formed config := by
  -- Taken from the end, since the last creation counts.
  induction steps using List.reverseRecOn generalizing d with
  | nil => cases hd
  | append_singleton steps s ih =>
    rw [after_append] at hd
    rw [lastMade_append_step]
    rcases detector_of_step hd with ⟨config, rfl, rfl⟩ | ⟨rfl, old, hold, rfl⟩ | ⟨hnever, _, hd⟩
    · have hmakes : Step.makes? id (.create id config) = some config := if_pos rfl
      rw [hmakes]
      exact ⟨config, rfl, Detector.formed_new config⟩
    · obtain ⟨config, hmade, hformed⟩ := ih hold
      exact ⟨config, hmade, hformed.detect _ _⟩
    · rw [makes_of_never hnever]
      exact ih hd

/-- Only detections send requests, each to the URL of its detector. -/
theorem step_asks {w : World} {s : Step} {r : Http.Request}
    (h : r ∈ requests (w.step s).1.events) :
    ∃ id d, s = .detect id ∧ w.detectors.get? id = some d ∧ r = Query.request d.url := by
  cases s with
  | detect id =>
    cases hd : w.detectors.get? id with
    | none => simp [step, hd, Report.events, requests] at h
    | some d =>
      rw [(step_detect hd).1] at h
      exact ⟨id, d, rfl, hd, d.detect_asks w.environment w.host r h⟩
  | _ => cases h

/-- A report of a run is that of its step in the world that the steps before it left. -/
theorem reported {w : World} {steps : List Step} {i : Nat} {report : Report}
    (h : (w.run steps)[i]? = some report) :
    ∃ s, steps[i]? = some s ∧ report = ((w.after (steps.take i)).step s).1 := by
  induction steps generalizing w i with
  | nil => cases h
  | cons s steps ih =>
    cases i with
    | zero => exact ⟨s, rfl, (Option.some.inj h).symm⟩
    | succ i => exact ih h

/-- URLs are the same exactly for endpoints that differ in nothing but the slashes at their ends,
and keep all else of them. Whatever a run does, each of its requests is one of a detection and goes
to the URL of the endpoint that the detector was made with. -/
theorem endpoints_told_and_asked :
    (∀ endpoint, Query.Addresses endpoint) ∧
    ∀ environment host steps i report, ((start environment host).run steps)[i]? = some report →
      ∀ r ∈ requests report.events, ∃ id config, steps[i]? = some (.detect id) ∧
        lastMade? id (steps.take i) = some config ∧
        r = Query.request (Query.url config.endpoint) := by
  constructor
  · exact Query.addresses
  · intro environment host steps i report h r hr
    obtain ⟨s, hs, rfl⟩ := reported h
    obtain ⟨id, d, rfl, hd, rfl⟩ := step_asks hr
    obtain ⟨config, hmade, hformed⟩ := formed_as_made hd
    exact ⟨id, config, hs, hmade, by rw [hformed.url]⟩

/-- A detector that took the place of another asks at its own endpoint, without the two slashes. -/
theorem second_made_asks_own_endpoint :
    let host : Host := ⟨Table.empty, fun _ => .response ⟨404, .ofFields [], .ofBytes []⟩, 0⟩
    let config : Config := { endpoint := "http://localhost:8080//" }
    let steps : List Step := [.create "here" {}, .create "here" config, .detect "here"]
    ∃ report, ((start Table.empty host).run steps)[2]? = some report ∧
      ∃ r ∈ requests report.events,
        r.url = Text.ofString "http://localhost:8080/computeMetadata/v1/?recursive=true" := by
  intro host config steps
  let made := (start Table.empty host).after (steps.take 2)
  have hd : made.detectors.get? "here" = some (.new config) := rfl
  have hreport : ((start Table.empty host).run steps)[2]? =
      some (made.step (.detect "here")).1 := rfl
  have hsent : requests (made.step (.detect "here")).1.events ≠ [] := by
    rw [(step_detect hd).1, Report.events,
      Detector.detect_made_sends (Detector.attempts_of_take rfl rfl)]
    exact Query.attempts_send _ _ _
  obtain ⟨r, hr⟩ := List.exists_mem_of_ne_nil _ hsent
  obtain ⟨_, hasks⟩ := endpoints_told_and_asked
  obtain ⟨id, last, hid, hlast, hurl⟩ := hasks Table.empty host steps 2 _ hreport r hr
  obtain rfl : Text.ofString "here" = id := Step.detect.inj (Option.some.inj hid)
  obtain rfl : config = last := Option.some.inj hlast
  exact ⟨_, hreport, r, hr, by rw [hurl]; rfl⟩

end World

end CloudDetector
