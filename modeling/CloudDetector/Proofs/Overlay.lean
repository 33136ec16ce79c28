import CloudDetector.Table
import Mathlib.Data.List.Basic

namespace CloudDetector

section Entries

variable {α : Type} {key other : Text} {value old new : α} {entries : List (Text × α)}

/-- The later of two values for one key stays. -/
theorem putEntry_again : putEntry key new (putEntry key old entries) = putEntry key new entries := by
  induction entries with
  | nil => simp [putEntry]
  | cons e rest ih =>
    obtain ⟨j, w⟩ := e
    by_cases hj : j = key
    · simp [putEntry, hj]
    · simp [putEntry, hj, ih]

/-- A key that is there keeps its place, whatever comes to stand behind it. -/
theorem putEntry_comm (hkey : key ∈ entries.map Prod.fst) (hne : other ≠ key) :
    putEntry key new (putEntry other value entries) =
      putEntry other value (putEntry key new entries) := by
  induction entries with
  | nil => simp at hkey
  | cons e rest ih =>
    obtain ⟨j, w⟩ := e
    by_cases hj : j = key
    · subst hj
      simp [putEntry, hne.symm]
    · have hrest : key ∈ rest.map Prod.fst := by simpa [Ne.symm hj] using hkey
      by_cases ho : j = other
      · simp [putEntry, ho, hne]
      · simp [putEntry, hj, ho, ih hrest]

theorem putEntry_of_lookup (h : entries.lookup key = some value) :
    putEntry key value entries = entries := by
  induction entries with
  | nil => cases h
  | cons e rest ih =>
    obtain ⟨j, w⟩ := e
    rw [lookup_cons_entry] at h
    by_cases hj : j = key
    · subst hj
      simpa [putEntry] using h.symm
    · rw [if_neg (Ne.symm hj)] at h
      simp [putEntry, hj, ih h]

end Entries

namespace Table

variable {α : Type}

/-- Entries put into a table one after another. -/
def putAll (t : Table α) (entries : List (Text × α)) : Table α :=
  entries.foldl (fun t e => t.put e.1 e.2) t

/-- One table laid over another: where both have a key, the upper one's value shows. -/
def overlay (t u : Table α) : Table α := t.putAll u.entries

theorem get?_putAll (t : Table α) {entries : List (Text × α)}
    (hn : (entries.map Prod.fst).Nodup) (key : Text) :
    (t.putAll entries).get? key = (entries.lookup key).or (t.get? key) := by
  induction entries generalizing t with
  | nil => rfl
  | cons e rest ih =>
    obtain ⟨j, w⟩ := e
    rw [List.map_cons, List.nodup_cons] at hn
    change ((t.put j w).putAll rest).get? key = _
    rw [ih (t.put j w) hn.2, get?_put, lookup_cons_entry]
    by_cases hk : key = j
    · have hnone : rest.lookup key = none := by
        rw [List.lookup_eq_none_iff]
        intro e he
        have hmem : e.1 ∈ rest.map Prod.fst := List.mem_map_of_mem he
        have hne : e.1 ≠ j := fun h => hn.1 (h ▸ hmem)
        simpa [hk] using hne.symm
      simp [hk ▸ hnone, hk]
    · simp [hk]

theorem get?_overlay (t u : Table α) (key : Text) :
    (t.overlay u).get? key = (u.get? key).or (t.get? key) := t.get?_putAll u.nodup key

theorem put_again (t : Table α) (key : Text) (old new : α) :
    (t.put key old).put key new = t.put key new := eq_of_entries putEntry_again

theorem put_comm {t : Table α} {key other : Text} (hkey : key ∈ t.entries.map Prod.fst)
    (hne : other ≠ key) (new value : α) :
    (t.put other value).put key new = (t.put key new).put other value :=
  eq_of_entries (putEntry_comm hkey hne)

theorem put_of_get? {t : Table α} {key : Text} {value : α} (h : t.get? key = some value) :
    t.put key value = t := eq_of_entries (putEntry_of_lookup h)

/-- A key that is there may get its value before or after the others. -/
theorem putAll_put {t : Table α} {key : Text} (hkey : key ∈ t.entries.map Prod.fst)
    {entries : List (Text × α)} (hnew : key ∉ entries.map Prod.fst) (value : α) :
    (t.put key value).putAll entries = (t.putAll entries).put key value := by
  induction entries generalizing t with
  | nil => rfl
  | cons e rest ih =>
    obtain ⟨j, w⟩ := e
    simp only [List.map_cons, List.mem_cons, not_or] at hnew
    have hkey' : key ∈ (t.put j w).entries.map Prod.fst := mem_keys_putEntry.mpr (.inr hkey)
    change ((t.put key value).put j w).putAll rest = ((t.put j w).putAll rest).put key value
    rw [← put_comm hkey (Ne.symm hnew.1), ih hkey' hnew.2]

theorem putAll_putEntry (t : Table α) {entries : List (Text × α)}
    (hn : (entries.map Prod.fst).Nodup) (key : Text) (value : α) :
    t.putAll (putEntry key value entries) = (t.putAll entries).put key value := by
  induction entries generalizing t with
  | nil => rfl
  | cons e rest ih =>
    obtain ⟨j, w⟩ := e
    rw [List.map_cons, List.nodup_cons] at hn
    by_cases hj : j = key
    · subst hj
      have hthere : j ∈ (t.put j w).entries.map Prod.fst := mem_keys_putEntry.mpr (.inl rfl)
      change (putEntry j value ((j, w) :: rest)).foldl _ t = ((t.put j w).putAll rest).put j value
      rw [← putAll_put hthere hn.1, put_again, putEntry, if_pos rfl]
      rfl
    · rw [putEntry, if_neg hj]
      exact ih (t.put j w) hn.2

/-- What is put into the upper table is put into both. -/
theorem overlay_put (t u : Table α) (key : Text) (value : α) :
    t.overlay (u.put key value) = (t.overlay u).put key value :=
  t.putAll_putEntry u.nodup key value

/-- A table that tells nothing new changes nothing. -/
theorem overlay_of_agree {t u : Table α} (h : ∀ key value, u.get? key = some value →
    t.get? key = some value) : t.overlay u = t := by
  have hall : ∀ entries : List (Text × α), (∀ e ∈ entries, t.get? e.1 = some e.2) →
      t.putAll entries = t := by
    intro entries
    induction entries with
    | nil => exact fun _ => rfl
    | cons e rest ih =>
      intro hagree
      change (t.put e.1 e.2).putAll rest = t
      rw [put_of_get? (hagree e List.mem_cons_self)]
      exact ih (fun e he => hagree e (List.mem_cons_of_mem _ he))
  exact hall u.entries (fun e he => h e.1 e.2 (get?_eq_some_iff.mpr he))

/-- Laying the same table over another twice is no more than once. -/
theorem overlay_again (t u : Table α) : (t.overlay u).overlay u = t.overlay u := by
  apply overlay_of_agree
  intro key value h
  rw [get?_overlay, h, Option.some_or]

end Table

end CloudDetector
