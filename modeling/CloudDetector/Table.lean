import CloudDetector.Text.Basic

namespace CloudDetector

/-- Changes the value of a key in place, or adds the key at the end. -/
def putEntry {α : Type} (key : Text) (value : α) : List (Text × α) → List (Text × α)
  | [] => [(key, value)]
  | (k, v) :: rest =>
    if k = key then (key, value) :: rest else (k, v) :: putEntry key value rest

theorem mem_keys_putEntry {α : Type} {key k : Text} {value : α} {entries : List (Text × α)} :
    k ∈ (putEntry key value entries).map Prod.fst ↔ k = key ∨ k ∈ entries.map Prod.fst := by
  induction entries with
  | nil => simp [putEntry]
  | cons e rest ih =>
    obtain ⟨j, w⟩ := e
    by_cases h : j = key
    · simp [putEntry, h]
    · simp only [putEntry, h, ↓reduceIte, List.map_cons, List.mem_cons, ih]
      constructor
      · rintro (h | h | h) <;> simp [h]
      · rintro (h | h | h) <;> simp [h]

theorem nodup_keys_putEntry {α : Type} (key : Text) (value : α) {entries : List (Text × α)}
    (h : (entries.map Prod.fst).Nodup) : ((putEntry key value entries).map Prod.fst).Nodup := by
  induction entries with
  | nil => simp [putEntry]
  | cons e rest ih =>
    obtain ⟨j, w⟩ := e
    simp only [List.map_cons, List.nodup_cons] at h
    by_cases hj : j = key
    · subst hj
      simpa [putEntry] using h
    · simp only [putEntry, hj, ↓reduceIte, List.map_cons, List.nodup_cons]
      refine ⟨?_, ih h.2⟩
      rw [mem_keys_putEntry]
      exact fun hm => hm.elim hj h.1

/-- A key that is not there yet comes last. -/
theorem putEntry_of_new {α : Type} {key : Text} (value : α) {entries : List (Text × α)}
    (h : key ∉ entries.map Prod.fst) : putEntry key value entries = entries ++ [(key, value)] := by
  induction entries with
  | nil => rfl
  | cons e rest ih =>
    obtain ⟨j, w⟩ := e
    simp only [List.map_cons, List.mem_cons, not_or] at h
    rw [putEntry, if_neg (Ne.symm h.1), ih h.2]
    rfl

theorem lookup_cons_entry {α : Type} (k j : Text) (value : α) (entries : List (Text × α)) :
    ((j, value) :: entries).lookup k = if k = j then some value else entries.lookup k := by
  by_cases h : k = j
  · rw [List.lookup_cons, beq_iff_eq.mpr h, if_pos h]
  · rw [List.lookup_cons, beq_eq_false_iff_ne.mpr h, if_neg h]

theorem lookup_putEntry {α : Type} (key k : Text) (value : α) (entries : List (Text × α)) :
    (putEntry key value entries).lookup k = if k = key then some value else entries.lookup k := by
  induction entries with
  | nil => exact lookup_cons_entry k key value []
  | cons e rest ih =>
    obtain ⟨j, w⟩ := e
    by_cases hj : j = key
    · rw [putEntry, if_pos hj, lookup_cons_entry, lookup_cons_entry, hj]
      split <;> rfl
    · rw [putEntry, if_neg hj, lookup_cons_entry, lookup_cons_entry, ih]
      by_cases h : k = j
      · rw [if_pos h, if_pos h, if_neg (h ▸ hj)]
      · rw [if_neg h, if_neg h]

theorem lookup_filter_key_ne {α : Type} (key k : Text) (entries : List (Text × α)) :
    (entries.filter (fun e => e.1 != key)).lookup k =
      if k = key then none else entries.lookup k := by
  induction entries with
  | nil => exact (ite_self none).symm
  | cons e rest ih =>
    obtain ⟨j, w⟩ := e
    by_cases hj : j = key
    · rw [List.filter_cons_of_neg (by simp [hj]), ih, lookup_cons_entry, hj]
      split <;> rfl
    · rw [List.filter_cons_of_pos (by simp [hj]), lookup_cons_entry, lookup_cons_entry, ih]
      by_cases h : k = j
      · rw [if_pos h, if_pos h, if_neg (h ▸ hj)]
      · rw [if_neg h, if_neg h]

theorem lookup_eq_some_iff_mem {α : Type} {entries : List (Text × α)}
    (hn : (entries.map Prod.fst).Nodup) {key : Text} {value : α} :
    entries.lookup key = some value ↔ (key, value) ∈ entries := by
  induction entries with
  | nil => simp
  | cons e rest ih =>
    obtain ⟨j, w⟩ := e
    simp only [List.map_cons, List.nodup_cons] at hn
    rw [lookup_cons_entry, List.mem_cons, Prod.mk.injEq]
    by_cases hj : key = j
    · subst j
      have hnew : (key, value) ∉ rest := fun hm => hn.1 (List.mem_map_of_mem hm)
      simp only [if_pos, hnew, or_false, true_and, Option.some.injEq]
      exact eq_comm
    · rw [if_neg hj, ih hn.2]
      simp only [hj, false_and, false_or]

/-- A finite map that remembers the order in which its keys first came. -/
structure Table (α : Type) where
  entries : List (Text × α)
  nodup : (entries.map Prod.fst).Nodup

namespace Table

variable {α : Type}

def empty : Table α := ⟨[], List.nodup_nil⟩

instance : EmptyCollection (Table α) := ⟨empty⟩

def get? (t : Table α) (key : Text) : Option α := t.entries.lookup key

def put (t : Table α) (key : Text) (value : α) : Table α :=
  ⟨putEntry key value t.entries, nodup_keys_putEntry key value t.nodup⟩

def erase (t : Table α) (key : Text) : Table α :=
  ⟨t.entries.filter (fun e => e.1 != key),
    List.Nodup.sublist (List.Sublist.map Prod.fst List.filter_sublist) t.nodup⟩

def ofList (entries : List (Text × α)) : Table α :=
  entries.foldl (fun t e => t.put e.1 e.2) empty

theorem get?_empty (key : Text) : (empty : Table α).get? key = none := rfl

theorem get?_put (t : Table α) (key k : Text) (value : α) :
    (t.put key value).get? k = if k = key then some value else t.get? k :=
  lookup_putEntry key k value t.entries

theorem get?_erase (t : Table α) (key k : Text) :
    (t.erase key).get? k = if k = key then none else t.get? k :=
  lookup_filter_key_ne key k t.entries

theorem get?_eq_some_iff {t : Table α} {key : Text} {value : α} :
    t.get? key = some value ↔ (key, value) ∈ t.entries :=
  lookup_eq_some_iff_mem t.nodup

theorem eq_of_entries {t t' : Table α} (h : t.entries = t'.entries) : t = t' := by
  cases t
  cases t'
  cases h
  rfl

def isEmpty (t : Table α) : Bool := t.entries.isEmpty

end Table

end CloudDetector
