import CloudDetector.Proofs.Detection

namespace CloudDetector

/-- A relation on detectors that detections keep, and what two detections have in common where it
holds. Both use the host alike. -/
structure Detector.Lockstep (R : Detector → Detector → Prop) (O : Detection → Detection → Prop) :
    Prop where
  refl : ∀ d, R d d
  detect : ∀ {d d'}, R d d' → ∀ environment host,
    O (d.detect environment host) (d'.detect environment host)
  host : ∀ {x y}, O x y → x.host = y.host
  detector : ∀ {x y}, O x y → R x.detector y.detector

namespace World

variable {C : Config → Config → Prop} {R : Detector → Detector → Prop}
  {O : Detector.Detection → Detector.Detection → Prop}

/-- Steps that are the same, but for the configuration with which a detector is made. -/
inductive Step.Related (C : Config → Config → Prop) : Step → Step → Prop
  | create (id : Text) {c c' : Config} (config : C c c') : Related C (.create id c) (.create id c')
  | same (s : Step) : Related C s s

inductive Report.Related (O : Detector.Detection → Detector.Detection → Prop) :
    Report → Report → Prop
  | done : Related O .done .done
  | detected {x y : Detector.Detection} (h : O x y) :
      Related O (.detected x.answer x.events) (.detected y.answer y.events)
  | unknown (id : Text) : Related O (.unknown id) (.unknown id)

/-- Worlds that differ at most in their detectors, which are related name by name. -/
structure Related (R : Detector → Detector → Prop) (w w' : World) : Prop where
  environment : w.environment = w'.environment
  host : w.host = w'.host
  detectors : ∀ id, Option.Rel R (w.detectors.get? id) (w'.detectors.get? id)

theorem related_start (environment : Resource.Environment) (host : Host) :
    (start environment host).Related R (start environment host) := ⟨rfl, rfl, fun _ => .none⟩

theorem Related.detector {w w' : World} (h : w.Related R w') {id : Text} {d : Detector}
    (hd : w.detectors.get? id = some d) : ∃ d', w'.detectors.get? id = some d' ∧ R d d' := by
  have hrel := h.detectors id
  rw [hd] at hrel
  generalize w'.detectors.get? id = found at hrel
  cases hrel with
  | some hr => exact ⟨_, rfl, hr⟩

/-- Where a detector is put into both worlds, they stay related if the two are. -/
theorem Related.put {w w' : World} (h : w.Related R w') (id : Text) {d d' : Detector}
    (hd : R d d') (k : Text) :
    Option.Rel R ((w.detectors.put id d).get? k) ((w'.detectors.put id d').get? k) := by
  rw [Table.get?_put, Table.get?_put]
  split
  · exact .some hd
  · exact h.detectors k

/-- One step reports what is related, and leaves related worlds. -/
theorem Related.step (hR : Detector.Lockstep R O)
    (hC : ∀ {c c'}, C c c' → R (.new c) (.new c')) {w w' : World} (h : w.Related R w')
    {s s' : Step} (hs : Step.Related C s s') :
    Report.Related O (w.step s).1 (w'.step s').1 ∧ (w.step s).2.Related R (w'.step s').2 := by
  cases hs with
  | create id config => exact ⟨.done, h.environment, h.host, h.put id (hC config)⟩
  | same =>
    cases s with
    | create id config => exact ⟨.done, h.environment, h.host, h.put id (hR.refl _)⟩
    | setVariable name value =>
      exact ⟨.done, congrArg (·.put name value) h.environment, h.host, h.detectors⟩
    | unsetVariable name =>
      exact ⟨.done, congrArg (·.erase name) h.environment, h.host, h.detectors⟩
    | serve server =>
      exact ⟨.done, h.environment, congrArg (fun host : Host => { host with server }) h.host,
        h.detectors⟩
    | detect id =>
      have hrel := h.detectors id
      simp only [World.step, ← h.environment, ← h.host]
      generalize w.detectors.get? id = found, w'.detectors.get? id = found' at hrel
      cases hrel with
      | none => exact ⟨.unknown id, h⟩
      | some hd =>
        have hdetections := hR.detect hd w.environment w.host
        exact ⟨.detected hdetections, rfl, hR.host hdetections,
          h.put id (hR.detector hdetections)⟩

/-- Runs of the same steps report what is related, and leave related worlds. -/
theorem Related.run (hR : Detector.Lockstep R O)
    (hC : ∀ {c c'}, C c c' → R (.new c) (.new c')) {w w' : World} (h : w.Related R w')
    {steps steps' : List Step} (hs : List.Forall₂ (Step.Related C) steps steps') :
    List.Forall₂ (Report.Related O) (w.run steps) (w'.run steps') ∧
      (w.after steps).Related R (w'.after steps') := by
  induction hs generalizing w w' with
  | nil => exact ⟨.nil, h⟩
  | cons hnow _ ih =>
    obtain ⟨hreport, hnext⟩ := h.step hR hC hnow
    obtain ⟨hreports, hend⟩ := ih hnext
    exact ⟨.cons hreport hreports, hend⟩

end World

end CloudDetector
