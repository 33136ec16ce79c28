import CloudDetector.Text.Basic

namespace CloudDetector.Text

/-- What follows the last `c`; the whole text where there is none. -/
def afterLast (c : CodePoint) (t : Text) : Text := (t.reverse.takeWhile (· != c)).reverse

/-- What precedes the last `c`; the whole text where there is none. -/
def beforeLast (c : CodePoint) (t : Text) : Text :=
  if c ∈ t then ((t.reverse.dropWhile (· != c)).drop 1).reverse else t

def dropTrailing (c : CodePoint) (t : Text) : Text := (t.reverse.dropWhile (· == c)).reverse

/-- Drops the characters of a class from both ends. -/
def stripWhile (p : CodePoint → Bool) (t : Text) : Text :=
  ((t.dropWhile p).reverse.dropWhile p).reverse

/-- The pieces between the occurrences of `c`, one more than there are occurrences. -/
def pieces (c : CodePoint) : Text → Text × List Text
  | [] => ([], [])
  | x :: t =>
    let (first, more) := pieces c t
    if x = c then ([], first :: more) else (x :: first, more)

/-- Splits at the first `c`, which goes to neither side. -/
def splitFirst? (c : CodePoint) (t : Text) : Option (Text × Text) :=
  if c ∈ t then some (t.takeWhile (· != c), (t.dropWhile (· != c)).drop 1) else none

def occursIn (part : Text) : Text → Bool
  | [] => part.isEmpty
  | c :: t => part.isPrefixOf (c :: t) || occursIn part t

/-- A text with a `c` parts at the last one. -/
theorem exists_last {c : CodePoint} {t : Text} (h : c ∈ t) : ∃ r s, t = r ++ c :: s ∧ c ∉ s := by
  obtain ⟨s, r, he, hs⟩ := List.eq_append_cons_of_mem (List.mem_reverse.mpr h)
  refine ⟨r.reverse, s.reverse, ?_, by simpa using hs⟩
  simpa using congrArg List.reverse he

theorem passed_over {c : CodePoint} {s : Text} (hs : c ∉ s) : ∀ a ∈ s.reverse, (a != c) = true := by
  intro a ha
  rw [bne_iff_ne]
  intro he
  exact hs (he ▸ List.mem_reverse.mp ha)

theorem afterLast_of_not_mem {c : CodePoint} {t : Text} (h : c ∉ t) : afterLast c t = t := by
  have hall : (t.reverse ++ []).takeWhile (· != c) = t.reverse ++ [].takeWhile (· != c) :=
    List.takeWhile_append_of_pos (passed_over h)
  rw [List.append_nil, List.takeWhile_nil, List.append_nil] at hall
  rw [afterLast, hall, List.reverse_reverse]

theorem afterLast_append {c : CodePoint} {s : Text} (hs : c ∉ s) (r : Text) :
    afterLast c (r ++ c :: s) = s := by
  have hsplit : (r ++ c :: s).reverse = s.reverse ++ c :: r.reverse := by simp
  rw [afterLast, hsplit, List.takeWhile_append_of_pos (passed_over hs),
    List.takeWhile_cons_of_neg (by simp), List.append_nil, List.reverse_reverse]

theorem not_mem_afterLast (c : CodePoint) (t : Text) : c ∉ afterLast c t := by
  by_cases h : c ∈ t
  · obtain ⟨r, s, rfl, hs⟩ := exists_last h
    rw [afterLast_append hs]
    exact hs
  · rw [afterLast_of_not_mem h]
    exact h

/-- The exact condition: a `c` sets the end of the text off, or there is none in all of it. -/
theorem afterLast_eq_iff {c : CodePoint} {t s : Text} :
    afterLast c t = s ↔ c ∉ s ∧ (t = s ∨ ∃ r, t = r ++ c :: s) := by
  constructor
  · intro h
    subst s
    refine ⟨not_mem_afterLast c t, ?_⟩
    by_cases h : c ∈ t
    · obtain ⟨r, s, rfl, hs⟩ := exists_last h
      rw [afterLast_append hs]
      exact .inr ⟨r, rfl⟩
    · exact .inl (afterLast_of_not_mem h).symm
  · intro h
    obtain ⟨hs, he⟩ := h
    rcases he with rfl | ⟨r, rfl⟩
    · exact afterLast_of_not_mem hs
    · exact afterLast_append hs r

/-- What stands before a `c` has no part in what follows the last one. -/
theorem afterLast_behind (c : CodePoint) (r t : Text) :
    afterLast c (r ++ c :: t) = afterLast c t := by
  by_cases h : c ∈ t
  · obtain ⟨r', s, rfl, hs⟩ := exists_last h
    have hlast : r ++ c :: (r' ++ c :: s) = (r ++ c :: r') ++ c :: s := by simp
    rw [hlast, afterLast_append hs, afterLast_append hs]
  · rw [afterLast_append h, afterLast_of_not_mem h]

theorem beforeLast_of_not_mem {c : CodePoint} {t : Text} (h : c ∉ t) : beforeLast c t = t :=
  if_neg h

theorem beforeLast_append {c : CodePoint} {s : Text} (hs : c ∉ s) (r : Text) :
    beforeLast c (r ++ c :: s) = r := by
  have hsplit : (r ++ c :: s).reverse = s.reverse ++ c :: r.reverse := by simp
  rw [beforeLast, if_pos (by simp), hsplit, List.dropWhile_append_of_pos (passed_over hs),
    List.dropWhile_cons_of_neg (by simp), List.drop_one, List.tail_cons, List.reverse_reverse]

theorem beforeLast_eq_iff {c : CodePoint} {t r : Text} :
    beforeLast c t = r ↔ (c ∉ t ∧ t = r) ∨ ∃ s, c ∉ s ∧ t = r ++ c :: s := by
  constructor
  · intro h
    subst r
    by_cases h : c ∈ t
    · obtain ⟨r, s, rfl, hs⟩ := exists_last h
      rw [beforeLast_append hs]
      exact .inr ⟨s, hs, rfl⟩
    · exact .inl ⟨h, (beforeLast_of_not_mem h).symm⟩
  · intro h
    rcases h with ⟨ht, rfl⟩ | ⟨s, hs, rfl⟩
    · exact beforeLast_of_not_mem ht
    · exact beforeLast_append hs r

theorem mem_of_mem_beforeLast {a c : CodePoint} {t : Text} (h : a ∈ beforeLast c t) : a ∈ t := by
  by_cases hc : c ∈ t
  · obtain ⟨r, s, rfl, hs⟩ := exists_last hc
    rw [beforeLast_append hs] at h
    exact List.mem_append_left _ h
  · rw [beforeLast_of_not_mem hc] at h
    exact h

end CloudDetector.Text
