import CloudDetector.Proofs.DetectorLife
import CloudDetector.Proofs.MetadataReply

namespace CloudDetector
open Trace

namespace Detector

/-- The attempts of a detection end with this document. -/
def Finds (d : Detector) (host : Host) (document : Json) : Prop :=
  ∃ tried, d.attempts? host = some tried ∧ tried.result = .ok (.success document)

theorem Finds.uncached {d : Detector} {host : Host} {document : Json}
    (h : d.Finds host document) : d.cache = none := by
  obtain ⟨tried, made, _⟩ := h
  exact (attempts_made made).1

/-- A document that is found is classified in the environment of the moment. It came with the last
reply. -/
theorem detect_found {d : Detector} {host : Host} {document : Json} (h : d.Finds host document)
    (environment : Resource.Environment) :
    (d.detect environment host).answer = .ok (Resource.classify document environment) ∧
    (d.detect environment host).detector.cache = some (Resource.classify document environment) ∧
    requests (d.detect environment host).events ≠ [] ∧
    host.lastResult (d.detect environment host).events = .ok (.success document) := by
  obtain ⟨tried, made, result⟩ := h
  obtain ⟨uncached, policy, hs, rfl⟩ := attempts_made made
  simp only [detect, uncached, hs, result, conclude, true_and]
  exact ⟨Query.attempts_send d.url policy host, Query.attempts_outcome result⟩

/-- A detection that finds nothing keeps nothing, in whatever way it fails. -/
theorem detect_nothing {d : Detector} {host : Host} (hc : d.cache = none)
    (h : ∀ document, ¬d.Finds host document) (environment : Resource.Environment) :
    (d.detect environment host).detector.cache = none := by
  have hends := d.detect_ends environment host
  generalize d.detect environment host = detection at hends ⊢
  cases hends with
  | kept attributes cached => exact hc
  | unmade fault uncached unmade => rw [break_off_detector, hc]
  | broken tried fault made result => rw [break_off_detector]; exact hc
  | unavailable tried reason made result => exact hc
  | found tried document made result => exact absurd ⟨tried, made, result⟩ (h document)

end Detector

namespace World

/-- A detection under this name would end its attempts with this document. -/
def Finds (w : World) (id : Text) (document : Json) : Prop :=
  ∃ d, w.detectors.get? id = some d ∧ d.Finds w.host document

/-- No detection under this name finds a document in the course of the steps. -/
def FindsNothing (w : World) (id : Text) (steps : List Step) : Prop :=
  ∀ before later document, steps = before ++ .detect id :: later →
    ¬(w.after before).Finds id document

/-- What is kept once is kept for life. -/
theorem kept_after {w : World} {id : Text} {attributes : Attributes}
    (h : w.kept? id = some attributes) {life : List Step}
    (hlife : ∀ config, .create id config ∉ life) :
    (w.after life).kept? id = some attributes := by
  obtain ⟨d, hd, hc⟩ := Option.bind_eq_some_iff.mp h
  have hdetect : ∀ (d : Detector) environment host, d.cache = some attributes →
      (d.detect environment host).detector.cache = some attributes := by
    intro d environment host hc
    rw [Detector.detect_kept hc]
    exact hc
  obtain ⟨d', hd', hc'⟩ := life_invariant hdetect hd hc hlife
  exact Option.bind_eq_some_iff.mpr ⟨d', hd', hc'⟩

theorem finds_nothing_cons {w : World} {id : Text} {s : Step} {steps : List Step} :
    w.FindsNothing id (s :: steps) ↔
      (s = .detect id → ∀ document, ¬w.Finds id document) ∧
        (w.step s).2.FindsNothing id steps := by
  constructor
  · intro h
    refine ⟨?_, ?_⟩
    · intro hs document
      subst s
      exact h [] steps document rfl
    · intro before later document he
      exact h (s :: before) later document (by rw [he]; rfl)
  · intro h before later document he
    obtain ⟨hnow, hlater⟩ := h
    cases before with
    | nil =>
      obtain ⟨hs, _⟩ := List.cons.inj he
      exact hnow hs document
    | cons s' before =>
      obtain ⟨rfl, hrest⟩ := List.cons.inj he
      exact hlater before later document hrest

/-- In the life of a detector that has nothing kept, something is kept exactly if some detection
finds a document. -/
theorem kept_none_iff {w : World} {id : Text} {d : Detector} (hd : w.detectors.get? id = some d)
    (hc : d.cache = none) {life : List Step} (hlife : ∀ config, .create id config ∉ life) :
    (w.after life).kept? id = none ↔ w.FindsNothing id life := by
  induction life generalizing w d with
  | nil =>
    refine ⟨?_, ?_⟩
    · intro _ before later document he
      cases before <;> cases he
    · intro _
      exact (congrArg (Option.bind · Detector.cache) hd).trans hc
  | cons s life ih =>
    obtain ⟨hs, hrest⟩ := never_created_cons hlife
    rw [finds_nothing_cons]
    change ((w.step s).2.after life).kept? id = none ↔ _
    rcases life_step hd hs with ⟨he, hn⟩ | ⟨he, hn⟩
    · by_cases hf : ∃ document, d.Finds w.host document
      · obtain ⟨document, hf⟩ := hf
        obtain ⟨_, hcache, _⟩ := Detector.detect_found hf w.environment
        have hkept := kept_after (Option.bind_eq_some_iff.mpr ⟨_, hn, hcache⟩) hrest
        rw [hkept]
        refine iff_of_false nofun ?_
        intro h
        exact h.1 he document ⟨d, hd, hf⟩
      · have hnow : ∀ document, ¬w.Finds id document := by
          intro document h
          obtain ⟨d', hd', hf'⟩ := h
          rw [hd] at hd'
          exact hf ⟨document, Option.some.inj hd' ▸ hf'⟩
        have hnone := Detector.detect_nothing hc (not_exists.mp hf) w.environment
        rw [ih hn hnone hrest]
        exact ⟨fun h => ⟨fun _ => hnow, h⟩, fun h => h.2⟩
    · rw [ih hn hc hrest]
      exact ⟨fun h => ⟨fun hd => absurd hd he, h⟩, fun h => h.2⟩

/-- The life of a detector, from its making in any world to the making of another under its name.
Nothing is kept until a detection first finds a document. What is kept then is that document, the
last that was received, classified in the environment of that moment; and from then on it is what
every detection answers, with nothing sent, handed out, awaited or told. -/
theorem cache_life (w : World) (id : Text) (config : Config) (life : List Step)
    (hlife : ∀ other, .create id other ∉ life) :
    let born := (w.step (.create id config)).2
    ((born.after life).kept? id = none ↔ born.FindsNothing id life) ∧
    ∀ earlier later document, life = earlier ++ .detect id :: later →
      (born.after earlier).Finds id document →
      let now := born.after earlier
      let attributes := Resource.classify document now.environment
      born.FindsNothing id earlier ∧
      (∃ events, (now.step (.detect id)).1 = .detected (.ok attributes) events ∧
        requests events ≠ [] ∧ now.host.lastResult events = .ok (.success document)) ∧
      (now.step (.detect id)).2.kept? id = some attributes ∧
      (born.after life).kept? id = some attributes ∧
      ((born.after life).step (.detect id)).1 = .detected (.ok attributes) [] := by
  intro born
  have hborn : born.detectors.get? id = some (.new config) := w.step_create id config
  refine ⟨kept_none_iff hborn rfl hlife, ?_⟩
  intro earlier later document he hfinds now attributes
  subst life
  obtain ⟨d, hd, hf⟩ := hfinds
  obtain ⟨hearlier, hlater⟩ := never_created_append hlife
  obtain ⟨hanswer, hcache, hsent, hlast⟩ := Detector.detect_found hf now.environment
  have hkept : (now.step (.detect id)).2.kept? id = some attributes :=
    Option.bind_eq_some_iff.mpr ⟨_, (step_detect hd).2, hcache⟩
  have hend : (born.after (earlier ++ .detect id :: later)).kept? id = some attributes := by
    rw [after_append]
    exact kept_after hkept (never_created_cons hlater).2
  refine ⟨?_, ⟨_, ?_, hsent, hlast⟩, hkept, hend, ?_⟩
  · apply (kept_none_iff hborn rfl hearlier).mp
    exact (congrArg (Option.bind · Detector.cache) hd).trans hf.uncached
  · rw [(step_detect hd).1, hanswer]
  · obtain ⟨d', hd', hc'⟩ := Option.bind_eq_some_iff.mp hend
    rw [(step_detect hd').1, Detector.detect_kept hc']

/-- A project without further metadata is found between two changes of the environment, and only
the first of them shows. -/
theorem cache_life_between_changes :
    let body : List UInt8 := [123, 34, 112, 114, 111, 106, 101, 99, 116, 34, 58, 123, 125, 125]
    let document : Json := .object [(Text.ofString "project", .object [])]
    let w := start Table.empty ⟨Table.empty, fun _ => Query.metadataReply body, 0⟩
    let earlier : List Step := [.setVariable "K_SERVICE" "shop"]
    let later : List Step := [.unsetVariable "K_SERVICE"]
    let born := (w.step (.create "here" {})).2
    (∀ other, .create "here" other ∉ earlier ++ .detect "here" :: later) ∧
    (born.after earlier).Finds "here" document ∧
    ((born.after (earlier ++ .detect "here" :: later)).step (.detect "here")).1 =
      .detected (.ok (Resource.classify document (born.after earlier).environment)) [] := by
  intro body document w earlier later born
  have hlife : ∀ other, .create "here" other ∉ earlier ++ .detect "here" :: later := by
    intro other
    simp [earlier, later]
  have hfinds : (born.after earlier).Finds "here" document :=
    ⟨_, rfl, _, rfl, Query.attempts_settled rfl⟩
  obtain ⟨_, hfound⟩ := cache_life w "here" {} _ hlife
  obtain ⟨_, _, _, _, hanswer⟩ := hfound earlier later document rfl hfinds
  exact ⟨hlife, hfinds, hanswer⟩

end World

end CloudDetector
