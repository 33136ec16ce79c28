import CloudDetector.Proofs.AttributeTable
import CloudDetector.Proofs.Overlay
import CloudDetector.Resource.Step

namespace CloudDetector.Resource

namespace Step

/-- The rows that a step writes. One that only asks writes none. -/
def rows : Step → List (Text × Origin)
  | set key value => [(key, .constant value)]
  | setVariable key name => [(key, .environment name)]
  | setMetadata key path => [(key, .document path)]
  | hasVariable _ | metadata _ | changeCopy _ => []
  | setZoneAndRegion => zoneRows
  | describe service => service.rows

/-- What a step writes on its own, where nothing was written before. -/
def alone (document : Json) (environment : Environment) (s : Step) : Attributes :=
  ((Builder.new document environment).apply s).2.attributes

/-- A step that only asks, or works on a copy. -/
def asks : Step → Bool
  | hasVariable _ | metadata _ | changeCopy _ => true
  | _ => false

end Step

/-- Nothing is taken away, and nothing empty is put in. -/
def Grows (t t' : Attributes) : Prop :=
  ∀ key, t'.get? key = t.get? key ∨ ∃ value ≠ [], t'.get? key = some value

theorem Grows.refl (t : Attributes) : Grows t t := fun _ => .inl rfl

theorem Grows.trans {t t' t'' : Attributes} (h : Grows t t') (h' : Grows t' t'') : Grows t t'' := by
  intro key
  rcases h' key with he | hv
  · rw [he]
    exact h key
  · exact .inr hv

namespace Builder

/-- The builder with what each of the steps writes on its own laid over its attributes, in order. -/
def overlaid (b : Builder) (steps : List Step) : Builder :=
  { b with attributes :=
      steps.foldl (fun t s => t.overlay (s.alone b.document b.environment)) b.attributes }

/-- The last of the steps that write a key gives it its value. -/
theorem get?_overlaid (b : Builder) (steps : List Step) (key : Text) :
    (b.overlaid steps).attributes.get? key =
      (steps.reverse.findSome? (fun s => (s.alone b.document b.environment).get? key)).or
        (b.attributes.get? key) := by
  induction steps generalizing b with
  | nil => rfl
  | cons s steps ih =>
    change ((b.overlaid [s]).overlaid steps).attributes.get? key = _
    have hs : (b.overlaid [s]).attributes.get? key =
        ((s.alone b.document b.environment).get? key).or (b.attributes.get? key) :=
      b.attributes.get?_overlay _ key
    rw [ih, hs, List.reverse_cons, List.findSome?_append, Option.or_assoc]
    simp [overlaid]

/-- The builder as it would stand had it begun with these attributes. -/
def upon (b : Builder) (t : Attributes) : Builder := { b with attributes := t.overlay b.attributes }

/-- What is set does not depend on what was there. -/
theorem set_upon (b : Builder) (t : Attributes) (key value : Text) :
    (b.upon t).set key value = (b.set key value).upon t := by
  cases value with
  | nil => rfl
  | cons c value => simp [set, upon, Table.overlay_put]

theorem fill_upon (b : Builder) (t : Attributes) (rows : List (Text × Origin)) :
    (b.upon t).fill rows = (b.fill rows).upon t := by
  induction rows generalizing b with
  | nil => rfl
  | cons r rows ih =>
    obtain ⟨key, origin⟩ := r
    rw [fill_cons, fill_cons, set_upon]
    exact ih _

theorem fill_inputs (b : Builder) (rows : List (Text × Origin)) :
    (b.fill rows).document = b.document ∧ (b.fill rows).environment = b.environment := by
  induction rows generalizing b with
  | nil => exact ⟨rfl, rfl⟩
  | cons r rows ih =>
    obtain ⟨key, origin⟩ := r
    rw [fill_cons]
    simpa using ih (b.set key (origin.value b.document b.environment))

theorem set_grows (b : Builder) (key value : Text) :
    Grows b.attributes (b.set key value).attributes := by
  intro k
  rw [get?_set]
  split
  · rename_i h
    exact .inr ⟨value, h.2, rfl⟩
  · exact .inl rfl

theorem fill_grows (b : Builder) (rows : List (Text × Origin)) :
    Grows b.attributes (b.fill rows).attributes := by
  induction rows generalizing b with
  | nil => exact .refl b.attributes
  | cons r rows ih =>
    obtain ⟨key, origin⟩ := r
    have hset := b.set_grows key (origin.value b.document b.environment)
    rw [fill_cons]
    exact hset.trans (ih _)

theorem apply_eq_fill (b : Builder) (s : Step) : (b.apply s).2 = b.fill s.rows := by
  cases s with
  | describe service => exact b.describe_eq_fill service
  | setZoneAndRegion => exact b.setZoneAndRegion_eq_fill
  | _ => rfl

theorem apply_asking (b : Builder) {s : Step} (h : s.asks = true) : (b.apply s).2 = b := by
  cases s with
  | hasVariable name | metadata path | changeCopy change => rfl
  | _ => cases h

/-- A step lays over the attributes what it writes on its own. -/
theorem apply_overlays (b : Builder) (s : Step) : (b.apply s).2 = b.overlaid [s] := by
  have hfill : b.fill s.rows = ((new b.document b.environment).fill s.rows).upon b.attributes :=
    (new b.document b.environment).fill_upon b.attributes s.rows
  obtain ⟨hdocument, henvironment⟩ := (new b.document b.environment).fill_inputs s.rows
  rw [apply_eq_fill, hfill, upon, hdocument, henvironment]
  change _ = { b with attributes := b.attributes.overlay (s.alone b.document b.environment) }
  rw [Step.alone, apply_eq_fill]
  rfl

theorem after_overlays (b : Builder) (steps : List Step) : b.after steps = b.overlaid steps := by
  induction steps generalizing b with
  | nil => rfl
  | cons s steps ih =>
    rw [after, apply_overlays, ih]
    rfl

theorem after_grows (b : Builder) (steps : List Step) :
    Grows b.attributes (b.after steps).attributes := by
  induction steps generalizing b with
  | nil => exact .refl b.attributes
  | cons s steps ih =>
    have hstep : Grows b.attributes (b.apply s).2.attributes := by
      rw [apply_eq_fill]
      exact b.fill_grows s.rows
    exact hstep.trans (ih (b.apply s).2)

theorem apply_again (b : Builder) (s : Step) : ((b.apply s).2.apply s).2 = (b.apply s).2 := by
  rw [apply_overlays (b.apply s).2, apply_overlays b]
  exact congrArg (Builder.mk b.document b.environment) (Table.overlay_again _ _)

/-- A step reports what it finds in the builder that the steps before it left. -/
theorem run_report (b : Builder) (before later : List Step) (s : Step) :
    (b.run (before ++ s :: later))[before.length]? =
      some (((b.after before).apply s).1, (b.after (before ++ [s])).attributes) := by
  rw [run_append, after_append, List.getElem?_append_right (Nat.le_of_eq (b.length_run before)),
    length_run, Nat.sub_self]
  rfl

end Builder

/-- What steps do to a builder, whatever it holds already. -/
structure Overlays (b : Builder) (steps : List Step) : Prop where
  after : b.after steps = b.overlaid steps
  value : ∀ key, (b.after steps).attributes.get? key =
    (steps.reverse.findSome? (fun s => (s.alone b.document b.environment).get? key)).or
      (b.attributes.get? key)
  grows : Grows b.attributes (b.after steps).attributes
  reports : ∀ before s later, steps = before ++ s :: later → (b.run steps)[before.length]? =
    some (((b.overlaid before).apply s).1, (b.overlaid (before ++ [s])).attributes)
  /-- However a copy is changed, the rest of the run is the run without it. -/
  copies : ∀ before change later, steps = before ++ .changeCopy change :: later → b.run steps =
    b.run before ++ (.copy (change (b.overlaid before).attributes), (b.overlaid before).attributes) ::
      (b.overlaid before).run later
  asking : ∀ s : Step, s.asks = true → (b.apply s).2 = b
  empty : ∀ key, (b.apply (.set key [])).2 = b
  again : ∀ s, ((b.apply s).2.apply s).2 = (b.apply s).2

/-- Steps of any kind and number lay over a builder's attributes, in order, what each of them writes
on its own, which is never empty. So nothing is lost, what was there has no part in what is written,
the same step twice is no more than once, and copies are the caller's own. -/
theorem steps_overlay (b : Builder) (steps : List Step) : Overlays b steps where
  after := b.after_overlays steps
  value := by
    intro key
    rw [b.after_overlays]
    exact b.get?_overlaid steps key
  grows := b.after_grows steps
  reports := by
    rintro before s later rfl
    rw [b.run_report, b.after_overlays, b.after_overlays]
  copies := by
    rintro before change later rfl
    rw [b.run_append, b.after_overlays]
    rfl
  asking _ := b.apply_asking
  empty _ := rfl
  again := b.apply_again

end CloudDetector.Resource
