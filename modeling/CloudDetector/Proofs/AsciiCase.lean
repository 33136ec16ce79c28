import CloudDetector.Text.LetterCase

namespace CloudDetector

/-- The small letter of one of the 26 capitals; every other code point stays as it is. -/
def CodePoint.foldAscii (c : CodePoint) : CodePoint :=
  if 0x41 ≤ c.val ∧ c.val ≤ 0x5A then .ofNat (c.val + 32) else c

def CodePoint.isAscii (c : CodePoint) : Bool := c.val < 0x80

def Text.foldAscii (t : Text) : Text := t.map CodePoint.foldAscii

namespace CodePoint

theorem foldAscii_beyond {c : CodePoint} (h : 0x80 ≤ c.val) : c.foldAscii = c :=
  if_neg (by omega)

/-- Folding makes no code point ASCII and none another. -/
theorem isAscii_foldAscii (c : CodePoint) : c.foldAscii.isAscii = c.isAscii := by
  unfold foldAscii
  split
  · rename_i h
    have hv : (ofNat (c.val + 32)).val = c.val + 32 := Nat.mod_eq_of_lt (by omega)
    simp only [isAscii, hv, decide_eq_decide]
    omega
  · rfl

end CodePoint

namespace LetterCase

/-- The 26 capitals stand first in the table. -/
theorem capitals_eq : capitals = ⟨0x41, 0x5A, 1, 0x61⟩ :: capitals.tail := rfl

/-- All others lie beyond ASCII and so do their small letters, but for the sign of the kelvin. -/
theorem tail_beyond_ascii : ∀ r ∈ capitals.tail,
    0x80 ≤ r.first ∧ r.small + (r.last - r.first) < 0x110000 ∧
      (0x80 ≤ r.small ∨ r.first = r.last ∧ r.small = 0x6B) := by
  decide +kernel

theorem lower_eq_some {r : Capitals} {c d : CodePoint} (h : r.lower? c = some d) :
    r.first ≤ c.val ∧ c.val ≤ r.last ∧ d = .ofNat (r.small + (c.val - r.first)) := by
  unfold Capitals.lower? at h
  split at h
  · rename_i hc
    exact ⟨hc.1, hc.2.1, (Option.some.inj h).symm⟩
  · cases h

/-- Lowering is folding, except beyond ASCII, where only the letter k is in reach. -/
theorem small_cases (c : CodePoint) :
    small c = c.foldAscii ∨ 0x80 ≤ c.val ∧ ((small c).isAscii = false ∨ small c = 'k') := by
  rw [small, capitals_eq, List.findSome?_cons]
  by_cases hc : 0x41 ≤ c.val ∧ c.val ≤ 0x5A
  · have hfirst : Capitals.lower? ⟨0x41, 0x5A, 1, 0x61⟩ c = some (.ofNat (c.val + 32)) := by
      rw [Capitals.lower?, if_pos ⟨hc.1, hc.2, Nat.mod_one _⟩]
      exact congrArg (fun n => some (CodePoint.ofNat n)) (by dsimp only; omega)
    left
    rw [hfirst, CodePoint.foldAscii, if_pos hc]
    rfl
  · have hfirst : Capitals.lower? ⟨0x41, 0x5A, 1, 0x61⟩ c = none :=
      if_neg (fun h => hc ⟨h.1, h.2.1⟩)
    rw [hfirst]
    cases hrest : capitals.tail.findSome? (·.lower? c) with
    | none =>
      left
      rw [CodePoint.foldAscii, if_neg hc]
      rfl
    | some d =>
      right
      obtain ⟨r, hr, hd⟩ := List.exists_of_findSome?_eq_some hrest
      obtain ⟨hlow, hhigh, rfl⟩ := lower_eq_some hd
      obtain ⟨hfirst, hlast, hsmall⟩ := tail_beyond_ascii r hr
      refine ⟨Nat.le_trans hfirst hlow, ?_⟩
      have hv : (CodePoint.ofNat (r.small + (c.val - r.first))).val =
          r.small + (c.val - r.first) := Nat.mod_eq_of_lt (by omega)
      rcases hsmall with hsmall | ⟨hone, hk⟩
      · left
        simp only [Option.getD_some, CodePoint.isAscii, hv, decide_eq_false_iff_not]
        omega
      · right
        apply Fin.ext
        rw [Option.getD_some, hv]
        change _ = 0x6B
        omega

theorem small_of_ascii {c : CodePoint} (h : c.isAscii = true) : small c = c.foldAscii := by
  rcases small_cases c with hs | ⟨hc, _⟩
  · exact hs
  · exact absurd (of_decide_eq_true h) (Nat.not_lt.mpr hc)

/-- An ASCII letter other than k comes from itself and its capital alone. -/
theorem small_eq_iff {x : CodePoint} (hx : x.isAscii = true) (hk : x ≠ 'k') (c : CodePoint) :
    small c = x ↔ c.foldAscii = x := by
  rcases small_cases c with hs | ⟨hc, hs⟩
  · rw [hs]
  · rw [c.foldAscii_beyond hc]
    constructor
    · rintro rfl
      rcases hs with hs | hs
      · rw [hs] at hx
        cases hx
      · exact absurd hs hk
    · rintro rfl
      exact absurd (of_decide_eq_true hx) (Nat.not_lt.mpr hc)

/-- An ASCII text that no other character can help to spell in lower case. The sign of the kelvin
becomes a k, and the dotted capital I becomes an i, though with a dot after it. -/
def isPlain : Text → Bool
  | [] => true
  | x :: p => x.isAscii && x != 'k' && (x != 'i' || !p.isEmpty) && isPlain p

theorem lowerAt_of_ascii {c : CodePoint} (h : c.isAscii = true) (before after : Text) :
    lowerAt before c after = [c.foldAscii] := by
  have hsigma : c ≠ 'Σ' := by
    rintro rfl
    cases h
  have hdotted : c ≠ 'İ' := by
    rintro rfl
    cases h
  rw [lowerAt, if_neg hsigma, if_neg hdotted, small_of_ascii h]

/-- What a lowered code point begins with tells which one it was, up to ASCII case. The dotted
capital I is the only one that leaves something behind. -/
theorem lowerAt_starts {x : CodePoint} (hx : x.isAscii = true) (hk : x ≠ 'k') {c : CodePoint}
    {before after rest s : Text} (h : lowerAt before c after ++ rest = x :: s) :
    c.foldAscii = x ∧ rest = s ∨ x = 'i' ∧ s = CodePoint.ofChar '\u0307' :: rest := by
  unfold lowerAt at h
  split at h
  · obtain ⟨rfl, _⟩ := List.cons.inj h
    revert hx
    split <;> exact fun hx => absurd hx (by decide)
  · split at h
    · obtain ⟨rfl, rfl⟩ := List.cons.inj h
      exact .inr ⟨rfl, rfl⟩
    · obtain ⟨hs, rfl⟩ := List.cons.inj h
      exact .inl ⟨(small_eq_iff hx hk c).mp hs, rfl⟩

/-- A plain text stands in front of a lowered one exactly where it stands in front of the folded
one. -/
theorem lowerFrom_eq_append {p : Text} (hp : isPlain p = true) {before t q : Text} :
    lowerFrom before t = p ++ q ↔ ∃ t₁ t₂, t = t₁ ++ t₂ ∧ t₁.foldAscii = p ∧
      lowerFrom (t₁.reverse ++ before) t₂ = q := by
  induction p generalizing before t with
  | nil =>
    constructor
    · exact fun h => ⟨[], t, rfl, rfl, h⟩
    · rintro ⟨t₁, t₂, rfl, h₁, rfl⟩
      obtain rfl := List.map_eq_nil_iff.mp h₁
      rfl
  | cons x p ih =>
    simp only [isPlain, Bool.and_eq_true, Bool.or_eq_true, bne_iff_ne, ne_eq,
      Bool.not_eq_true', List.isEmpty_eq_false_iff] at hp
    obtain ⟨⟨⟨hx, hk⟩, hi⟩, hp⟩ := hp
    cases t with
    | nil =>
      constructor
      · intro h
        cases h
      · rintro ⟨t₁, t₂, ht, h₁, _⟩
        obtain ⟨rfl, _⟩ := List.append_eq_nil_iff.mp ht.symm
        cases h₁
    | cons c t =>
      rw [lowerFrom]
      constructor
      · intro h
        rcases lowerAt_starts hx hk h with ⟨hc, hrest⟩ | ⟨rfl, hrest⟩
        · obtain ⟨t₁, t₂, rfl, h₁, h₂⟩ := (ih hp).mp hrest
          refine ⟨c :: t₁, t₂, rfl, ?_, ?_⟩
          · rw [Text.foldAscii, List.map_cons, hc]
            exact congrArg (x :: ·) h₁
          · rw [List.reverse_cons, List.append_assoc]
            exact h₂
        · -- The dot that follows is not ASCII, and a plain text goes on after an i.
          cases p with
          | nil => exact absurd rfl (hi.resolve_left (fun hi => hi rfl))
          | cons y p =>
            obtain ⟨rfl, _⟩ := List.cons.inj hrest
            simp only [isPlain, Bool.and_eq_true] at hp
            exact absurd hp.1.1.1 (by decide)
      · rintro ⟨t₁, t₂, ht, h₁, h₂⟩
        cases t₁ with
        | nil => cases h₁
        | cons d t₁ =>
          obtain ⟨rfl, rfl⟩ := List.cons.inj ht
          obtain ⟨rfl, htail⟩ := List.cons.inj h₁
          rw [CodePoint.isAscii_foldAscii] at hx
          rw [lowerAt_of_ascii hx, List.cons_append, List.cons_append, List.nil_append]
          congr 1
          refine (ih hp).mpr ⟨t₁, t₂, rfl, htail, ?_⟩
          rw [List.reverse_cons, List.append_assoc] at h₂
          exact h₂

end LetterCase

namespace Text
open LetterCase

theorem lower_eq_iff {p : Text} (hp : isPlain p = true) (t : Text) :
    t.lower = p ↔ t.foldAscii = p := by
  rw [lower, ← List.append_nil p, lowerFrom_eq_append hp, List.append_nil]
  constructor
  · rintro ⟨t₁, t₂, rfl, h₁, h₂⟩
    cases t₂ with
    | nil => rw [List.append_nil, h₁]
    | cons c t₂ =>
      have hne : lowerAt (t₁.reverse ++ []) c t₂ ≠ [] := by
        unfold lowerAt
        split
        · nofun
        · split <;> nofun
      exact absurd (List.append_eq_nil_iff.mp h₂).1 hne
  · intro ht
    exact ⟨t, [], (List.append_nil t).symm, ht, rfl⟩

theorem prefix_lower_iff {p : Text} (hp : isPlain p = true) (t : Text) :
    p <+: t.lower ↔ p <+: t.foldAscii := by
  constructor
  · rintro ⟨q, hq⟩
    obtain ⟨t₁, t₂, rfl, h₁, _⟩ := (lowerFrom_eq_append hp).mp hq.symm
    refine ⟨t₂.foldAscii, ?_⟩
    rw [← h₁]
    exact List.map_append.symm
  · rintro ⟨q, hq⟩
    obtain ⟨t₁, t₂, rfl, h₁, _⟩ := List.map_eq_append_iff.mp hq.symm
    exact ⟨_, ((lowerFrom_eq_append hp).mpr ⟨t₁, t₂, rfl, h₁, rfl⟩).symm⟩

end Text
end CloudDetector
