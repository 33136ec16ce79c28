import CloudDetector.Proofs.RelevantInputs
import CloudDetector.Proofs.Spelling

namespace CloudDetector

namespace Json

/-- Equal up to the order of members, in every object anywhere in the value. -/
inductive Reordered : Json → Json → Prop
  | refl (v : Json) : Reordered v v
  | trans {v v' v'' : Json} (h : Reordered v v') (h' : Reordered v' v'') : Reordered v v''
  | members {ms ms' : List (Text × Json)} (distinct : (ms.map Prod.fst).Nodup)
      (h : ms.Perm ms') : Reordered (.object ms) (.object ms')
  | item {before after : List Json} {v v' : Json} (h : Reordered v v') :
      Reordered (.array (before ++ v :: after)) (.array (before ++ v' :: after))
  | member {before after : List (Text × Json)} {name : Text} {v v' : Json}
      (h : Reordered v v') : Reordered (.object (before ++ (name, v) :: after))
        (.object (before ++ (name, v') :: after))

/-- A text that spells the value with its members in any order. -/
def Renders (depth : Nat) (v : Json) (text : List Char) : Prop :=
  ∃ v', Reordered v v' ∧ Spells depth (.element v') text

theorem lookup_perm {ms ms' : List (Text × Json)} (distinct : (ms.map Prod.fst).Nodup)
    (h : ms.Perm ms') (name : Text) : ms'.lookup name = ms.lookup name := by
  have distinct' : (ms'.map Prod.fst).Nodup := (h.map Prod.fst).nodup_iff.mp distinct
  apply Option.ext
  intro v
  rw [lookup_eq_some_iff_mem distinct, lookup_eq_some_iff_mem distinct', h.mem_iff]

theorem lookup_between (before after : List (Text × Json)) (name key : Text) (v : Json) :
    (before ++ (name, v) :: after).lookup key =
      (before.lookup key).or (if key = name then some v else after.lookup key) := by
  rw [List.lookup_append, lookup_cons_entry]

/-- Where one member has been exchanged for another in which every path finds the same text, every
path finds what it found before. -/
theorem lookup_exchanged {v v' : Json} (h : ∀ path, v'.lookup path = v.lookup path)
    (before after : List (Text × Json)) (name : Text) (path : Path) :
    (object (before ++ (name, v') :: after)).lookup path =
      (object (before ++ (name, v) :: after)).lookup path := by
  cases path with
  | nil => rfl
  | cons key path =>
    rw [lookup_cons, lookup_cons, lookup_between, lookup_between]
    cases before.lookup key with
    | some w => rfl
    | none =>
      by_cases hk : key = name
      · simp only [Option.none_or, if_pos hk, Option.map_some, Option.getD_some, h path]
      · simp only [if_neg hk]

/-- Every path finds the same text. -/
theorem Reordered.lookup {v v' : Json} (h : Reordered v v') (path : Path) :
    v'.lookup path = v.lookup path := by
  induction h generalizing path with
  | refl v => rfl
  | trans _ _ ih ih' => exact (ih' path).trans (ih path)
  | members distinct hperm =>
    cases path with
    | nil => rfl
    | cons key path => rw [lookup_cons, lookup_cons, lookup_perm distinct hperm]
  | item _ _ => cases path <;> rfl
  | member _ ih => exact lookup_exchanged ih _ _ _ path

/-- Every member is still there. -/
theorem Reordered.member_isSome {v v' : Json} (h : Reordered v v') (key : Text) :
    (v'.member? key).isSome = (v.member? key).isSome := by
  induction h with
  | refl v => rfl
  | trans _ _ ih ih' => exact ih'.trans ih
  | members distinct hperm => rw [member?, member?, lookup_perm distinct hperm]
  | item _ _ => rfl
  | @member before after name v v' _ _ =>
    rw [member?, member?, lookup_between, lookup_between]
    cases before.lookup key with
    | some w => rfl
    | none =>
      by_cases hk : key = name
      · simp only [if_pos hk, Option.none_or, Option.isSome_some]
      · simp only [if_neg hk]

end Json

namespace Resource

/-- The order of members shows in no attribute. -/
theorem classify_reordered {document document' : Json} (h : document.Reordered document')
    (environment : Environment) :
    classify document' environment = classify document environment :=
  classify_unchanged (fun path _ => h.lookup path) ⟨rfl, fun _ _ _ _ => rfl⟩

end Resource

end CloudDetector
