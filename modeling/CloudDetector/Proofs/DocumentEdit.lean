import CloudDetector.Json.Path

namespace CloudDetector.Json

/-- A change of one member of an object. -/
inductive Edit
  /-- Gives the member this value; adds it if it is not there. -/
  | put (value : Json)
  | remove

namespace Edit

/-- The members once the one of this name is edited. -/
def members (e : Edit) (name : Text) (members : List (Text × Json)) : List (Text × Json) :=
  match e with
  | put value => putEntry name value members
  | remove => members.filter (fun m => m.1 != name)

/-- What stands under the name then. -/
def value? : Edit → Option Json
  | put value => some value
  | remove => none

theorem lookup_members (e : Edit) (name key : Text) (members : List (Text × Json)) :
    (e.members name members).lookup key =
      if key = name then e.value? else members.lookup key := by
  cases e with
  | put value => exact lookup_putEntry name key value members
  | remove => exact lookup_filter_key_ne name key members

end Edit

/-- Edits a member of the object that a path reaches; there is nothing to edit if it reaches none. -/
def edit? (e : Edit) (name : Text) : Path → Json → Option Json
  | [], .object members => some (.object (e.members name members))
  | key :: path, .object members =>
    (members.lookup key).bind fun v =>
      (edit? e name path v).map fun v' => .object (putEntry key v' members)
  | _, _ => none

theorem lookup_cons (key : Text) (path : Path) (members : List (Text × Json)) :
    lookup (key :: path) (.object members) = ((members.lookup key).map (lookup path)).getD [] := by
  rw [lookup, reach?, member?]
  cases members.lookup key <;> rfl

theorem edit_cons {e : Edit} {name key : Text} {path : Path} {v v' : Json}
    (h : v.edit? e name (key :: path) = some v') :
    ∃ members inner inner', v = .object members ∧ members.lookup key = some inner ∧
      inner.edit? e name path = some inner' ∧ v' = .object (putEntry key inner' members) := by
  cases v with
  | object members =>
    obtain ⟨inner, hinner, h⟩ := Option.bind_eq_some_iff.mp h
    obtain ⟨inner', hedit, rfl⟩ := Option.map_eq_some_iff.mp h
    exact ⟨members, inner, inner', rfl, hinner, hedit, rfl⟩
  | _ => cases h

theorem edit_nil {e : Edit} {name : Text} {v v' : Json} (h : v.edit? e name [] = some v') :
    ∃ members, v = .object members ∧ v' = .object (e.members name members) := by
  cases v with
  | object members => exact ⟨members, rfl, (Option.some.inj h).symm⟩
  | _ => cases h

/-- Where a path reaches an object, its member is edited. -/
theorem edit_of_reach (e : Edit) (name : Text) {path : Path} {v : Json}
    {members : List (Text × Json)} (h : v.reach? path = some (.object members)) :
    ∃ v', v.edit? e name path = some v' ∧ v'.reach? (path ++ [name]) = e.value? := by
  induction path generalizing v with
  | nil =>
    obtain rfl : v = .object members := Option.some.inj h
    refine ⟨_, rfl, ?_⟩
    rw [List.nil_append, reach?, member?, e.lookup_members, if_pos rfl]
    cases e.value? <;> rfl
  | cons key path ih =>
    obtain ⟨inner, hinner, hreach⟩ := Option.bind_eq_some_iff.mp h
    cases v with
    | object outer =>
      obtain ⟨inner', hedit, hvalue⟩ := ih hreach
      refine ⟨.object (putEntry key inner' outer), ?_, ?_⟩
      · change (outer.lookup key).bind _ = _
        rw [show outer.lookup key = some inner from hinner, Option.bind_some, hedit]
        rfl
      · rw [List.cons_append, reach?, member?, lookup_putEntry, if_pos rfl]
        exact hvalue
    | _ => cases hinner

/-- A path that does not lead through the place of an edit finds what it found before. Objects on the
way have no text, so it does not matter whether the edit is below the end of the path. -/
theorem lookup_edit {e : Edit} {name : Text} {place path : Path} {v v' : Json}
    (h : v.edit? e name place = some v') (hpath : ¬place ++ [name] <+: path) :
    v'.lookup path = v.lookup path := by
  induction place generalizing path v v' with
  | nil =>
    obtain ⟨members, rfl, rfl⟩ := edit_nil h
    cases path with
    | nil => rfl
    | cons key rest =>
      have hkey : key ≠ name := by
        rintro rfl
        exact hpath ⟨rest, rfl⟩
      rw [lookup_cons, lookup_cons, e.lookup_members, if_neg hkey]
  | cons step place ih =>
    obtain ⟨members, inner, inner', rfl, hinner, hedit, rfl⟩ := edit_cons h
    cases path with
    | nil => rfl
    | cons key rest =>
      rw [lookup_cons, lookup_cons, lookup_putEntry]
      split
      · rename_i hkey
        subst key
        have hrest : ¬place ++ [name] <+: rest := by
          intro hp
          exact hpath (List.cons_prefix_cons.mpr ⟨rfl, hp⟩)
        rw [hinner, Option.map_some, Option.map_some, Option.getD_some, Option.getD_some,
          ih hedit hrest]
      · rfl

end CloudDetector.Json
