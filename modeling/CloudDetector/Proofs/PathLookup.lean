import CloudDetector.Proofs.MemberOrder

namespace CloudDetector

namespace Json

/-- Each name of the path is that of a member, inward from one value to another. -/
inductive Leads : Path → Json → Json → Prop
  | here (v : Json) : Leads [] v v
  | inward {members : List (Text × Json)} {name : Text} {path : Path} {v w : Json}
      (found : members.lookup name = some v) (rest : Leads path v w) :
      Leads (name :: path) (.object members) w

/-- Equal but for what arrays hold, anywhere in the value. -/
inductive Refilled : Json → Json → Prop
  | refl (v : Json) : Refilled v v
  | trans {v v' v'' : Json} (h : Refilled v v') (h' : Refilled v' v'') : Refilled v v''
  | items (items items' : List Json) : Refilled (.array items) (.array items')
  | member {before after : List (Text × Json)} {name : Text} {v v' : Json} (h : Refilled v v') :
      Refilled (.object (before ++ (name, v) :: after)) (.object (before ++ (name, v') :: after))

theorem Leads.reaches {path : Path} {v w : Json} (h : Leads path v w) :
    v.reach? path = some w := by
  induction h with
  | here v => rfl
  | inward found _ ih => simp [reach?, member?, found, ih]

theorem leads_of_reach {path : Path} {v w : Json} (h : v.reach? path = some w) :
    Leads path v w := by
  induction path generalizing v with
  | nil =>
    obtain rfl : v = w := Option.some.inj h
    exact .here v
  | cons name path ih =>
    obtain ⟨child, hfound, hrest⟩ := Option.bind_eq_some_iff.mp h
    cases v with
    | object members => exact .inward hfound (ih hrest)
    | _ => cases hfound

/-- A path that goes on from another goes on from where that one leads. -/
theorem reach_append (p q : Path) (v : Json) :
    v.reach? (p ++ q) = (v.reach? p).bind (reach? q) := by
  induction p generalizing v with
  | nil => rfl
  | cons name p ih =>
    rw [List.cons_append, reach?, reach?, Option.bind_assoc]
    exact congrArg (v.member? name).bind (funext ih)

theorem Leads.lookup_append {p : Path} {v w : Json} (h : Leads p v w) (q : Path) :
    v.lookup (p ++ q) = w.lookup q := by
  simp [lookup, reach_append, h.reaches]

theorem lookup_of_nowhere {p : Path} {v : Json} (h : ¬∃ w, Leads p v w) : v.lookup p = [] := by
  cases hr : v.reach? p with
  | none => simp [lookup, hr]
  | some w => exact absurd ⟨w, leads_of_reach hr⟩ h

/-- Once astray a path stays so. -/
theorem leads_of_longer {p q : Path} {v u : Json} (h : Leads (p ++ q) v u) :
    ∃ w, Leads p v w := by
  have hreach := h.reaches
  rw [reach_append] at hreach
  obtain ⟨w, hw, _⟩ := Option.bind_eq_some_iff.mp hreach
  exact ⟨w, leads_of_reach hw⟩

/-- Only objects have members, so a longer path leads nowhere from anything else. -/
theorem Leads.object_of_longer {p q : Path} {v u : Json} (h : Leads (p ++ q) v u) (hq : q ≠ []) :
    ∃ members, Leads p v (.object members) := by
  induction p generalizing v with
  | nil =>
    cases h with
    | here => exact absurd rfl hq
    | inward found rest => exact ⟨_, .here _⟩
  | cons name p ih =>
    cases h with
    | inward found rest =>
      obtain ⟨members, hm⟩ := ih rest
      exact ⟨members, .inward found hm⟩

theorem Leads.unique {p : Path} {v w w' : Json} (h : Leads p v w) (h' : Leads p v w') : w = w' :=
  Option.some.inj (h.reaches.symm.trans h'.reaches)

theorem exists_of_lookup {p : Path} {v : Json} (h : v.lookup p ≠ []) :
    ∃ w, Leads p v w ∧ w.scalar ≠ [] := by
  cases hr : v.reach? p with
  | none => simp [lookup, hr] at h
  | some w => exact ⟨w, leads_of_reach hr, by simpa [lookup, hr] using h⟩

/-- Where there is text there is nothing further in. -/
theorem lookup_beyond_text {p : Path} {v : Json} (h : v.lookup p ≠ []) {q : Path} (hq : q ≠ []) :
    v.lookup (p ++ q) = [] := by
  obtain ⟨w, hw, hs⟩ := exists_of_lookup h
  apply lookup_of_nowhere
  rintro ⟨u, hu⟩
  obtain ⟨members, hm⟩ := hu.object_of_longer hq
  obtain rfl := hw.unique hm
  exact hs rfl

/-- On the way to a text there are objects, which have none. -/
theorem lookup_before_text {p q : Path} {v : Json} (h : v.lookup (p ++ q) ≠ []) (hq : q ≠ []) :
    (∃ members, Leads p v (.object members)) ∧ v.lookup p = [] := by
  obtain ⟨u, hu, _⟩ := exists_of_lookup h
  obtain ⟨members, hm⟩ := hu.object_of_longer hq
  refine ⟨⟨members, hm⟩, ?_⟩
  simp [lookup, hm.reaches, scalar]

/-- No path goes into an array. -/
theorem not_leads_into_array {p q : Path} {v : Json} {items : List Json}
    (h : Leads p v (.array items)) (hq : q ≠ []) : ¬∃ w, Leads (p ++ q) v w := by
  rintro ⟨w, hw⟩
  obtain ⟨members, hm⟩ := hw.object_of_longer hq
  cases h.unique hm

theorem Refilled.lookup {v v' : Json} (h : Refilled v v') (path : Path) :
    v'.lookup path = v.lookup path := by
  induction h generalizing path with
  | refl v => rfl
  | trans _ _ ih ih' => exact (ih' path).trans (ih path)
  | items items items' => cases path <;> rfl
  | member _ ih => exact lookup_exchanged ih _ _ _ path

/-- One path into a value against the longer and the shorter ones. -/
structure Composes (v : Json) (p : Path) : Prop where
  onward : ∀ w, Leads p v w → ∀ q, v.lookup (p ++ q) = w.lookup q
  astray : (¬∃ w, Leads p v w) → ∀ q, v.lookup (p ++ q) = []
  beyond : v.lookup p ≠ [] → ∀ q ≠ [], v.lookup (p ++ q) = []
  before : v.lookup p ≠ [] → ∀ q r, p = q ++ r → r ≠ [] →
    (∃ members, Leads q v (.object members)) ∧ v.lookup q = []
  arrays : ∀ items, Leads p v (.array items) → ∀ q ≠ [], ¬∃ w, Leads (p ++ q) v w
  refilled : ∀ v', Refilled v v' → v'.lookup p = v.lookup p

/-- Lookups compose along the paths that lead somewhere and are empty along all others. What has a
text of its own has nothing inside, and what arrays hold is never seen. -/
theorem lookups_compose (v : Json) (p : Path) : Composes v p where
  onward _ h := h.lookup_append
  astray := by
    intro h q
    apply lookup_of_nowhere
    rintro ⟨u, hu⟩
    exact h (leads_of_longer hu)
  beyond h _ := lookup_beyond_text h
  before := by
    rintro h q r rfl hr
    exact lookup_before_text h hr
  arrays _ h _ := not_leads_into_array h
  refilled _ h := h.lookup p

/-- A number is no name of what stands at its place. -/
example : (object [("a", array [string "x"])]).lookup ["a", "0"] = [] := rfl

end Json

namespace Resource

/-- What arrays hold shows in no attribute. -/
theorem classify_refilled {document document' : Json} (h : document.Refilled document')
    (environment : Environment) :
    classify document' environment = classify document environment :=
  classify_unchanged (fun path _ => h.lookup path) ⟨rfl, fun _ _ _ _ => rfl⟩

end Resource

end CloudDetector
