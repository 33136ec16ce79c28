import CloudDetector.Proofs.Lockstep
import Mathlib.Data.List.Forall2

namespace CloudDetector

namespace Detector

/-- Two detectors that no detection tells apart. The endpoint, the first state of the source and
the owner of the connection are not looked at once a detector is made. -/
structure Alike (d d' : Detector) : Prop where
  url : d.url = d'.url
  source : d.source = d'.source
  cache : d.cache = d'.cache
  raiseOnError : d.config.raiseOnError = d'.config.raiseOnError
  logger : d.config.logger = d'.config.logger

theorem Alike.refl (d : Detector) : Alike d d := ⟨rfl, rfl, rfl, rfl, rfl⟩

/-- Two detections that look the same and leave detectors alike. -/
structure Detection.Alike (x y : Detection) : Prop where
  answer : x.answer = y.answer
  events : x.events = y.events
  host : x.host = y.host
  detector : x.detector.Alike y.detector

theorem Alike.breakOff {d d' : Detector} (h : d.Alike d') (fault : Fault) (events : List Event)
    (host : Host) : (d.breakOff fault events host).Alike (d'.breakOff fault events host) := by
  unfold Detector.breakOff detectionFailed
  rw [h.raiseOnError, h.logger]
  split
  · exact ⟨rfl, rfl, rfl, h⟩
  · exact ⟨rfl, rfl, rfl, h⟩

theorem Alike.conclude {d d' : Detector} (h : d.Alike d') (environment : Resource.Environment)
    (outcome : Outcome) (events : List Event) (host : Host) :
    (d.conclude environment outcome events host).Alike
      (d'.conclude environment outcome events host) := by
  unfold Detector.conclude unavailable
  rw [h.logger]
  cases outcome with
  | success document => exact ⟨rfl, rfl, rfl, h.url, h.source, rfl, h.raiseOnError, h.logger⟩
  | retryable reason => exact ⟨rfl, rfl, rfl, h⟩
  | fatal reason => exact ⟨rfl, rfl, rfl, h⟩

theorem Alike.detect {d d' : Detector} (h : d.Alike d') (environment : Resource.Environment)
    (host : Host) : (d.detect environment host).Alike (d'.detect environment host) := by
  obtain ⟨config, url, source, cache⟩ := d
  obtain ⟨config', url', source', cache'⟩ := d'
  obtain ⟨hu, hs, hc, hr, hl⟩ := h
  dsimp only at hu hs hc hr hl
  subst url' source' cache'
  have hgiven : ∀ s, Alike ⟨config, url, s, cache⟩ ⟨config', url, s, cache⟩ :=
    fun s => ⟨rfl, rfl, rfl, hr, hl⟩
  unfold Detector.detect
  dsimp only
  cases cache with
  | some attributes => exact ⟨rfl, rfl, rfl, hgiven source⟩
  | none =>
    cases source.take with
    | error fault => exact (hgiven _).breakOff fault _ host
    | ok policy =>
      dsimp only
      cases (Query.attempts url policy host).result with
      | error fault => exact (hgiven _).breakOff fault _ _
      | ok outcome => exact (hgiven _).conclude environment outcome _ _

theorem alike_lockstep : Lockstep Alike Detection.Alike where
  refl := Alike.refl
  detect := Alike.detect
  host := Detection.Alike.host
  detector := Detection.Alike.detector

end Detector

namespace World

/-- Two worlds that differ at most in detectors that are alike. -/
abbrev Alike : World → World → Prop := Related Detector.Alike

theorem Report.eq_of_alike {x y : Report} (h : Report.Related Detector.Detection.Alike x y) :
    x = y := by
  cases h with
  | done | unknown => rfl
  | detected h => rw [h.answer, h.events]

/-- Runs from worlds that are alike report the same. -/
theorem alike_run {w w' : World} (h : w.Alike w') (steps : List Step) :
    w.run steps = w'.run steps := by
  have hsteps : List.Forall₂ (Step.Related (fun _ _ => False)) steps steps :=
    List.forall₂_same.mpr (fun s _ => .same s)
  obtain ⟨hreports, _⟩ := h.run Detector.alike_lockstep False.elim hsteps
  rw [← List.forall₂_eq_eq_eq]
  exact hreports.imp (fun _ _ => Report.eq_of_alike)

/-- A detector may be replaced by a new one that is like it. -/
theorem alike_create {w : World} {id : Text} {d : Detector} (hd : w.detectors.get? id = some d)
    {config : Config} (h : d.Alike (.new config)) : w.Alike (w.step (.create id config)).2 := by
  refine ⟨rfl, rfl, ?_⟩
  intro k
  change Option.Rel Detector.Alike _ ((w.detectors.put id (.new config)).get? k)
  rw [Table.get?_put]
  split
  · rename_i hk
    rw [hk, hd]
    exact .some h
  · cases w.detectors.get? k with
    | none => exact .none
    | some d => exact .some (Detector.Alike.refl d)

end World

end CloudDetector
