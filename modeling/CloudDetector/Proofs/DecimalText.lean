import CloudDetector.Text.Decimal
import Mathlib.Algebra.Group.Nat.Defs

namespace CloudDetector.Decimal

/-- Digits as a number is written with: one at least, and a zero in front only where it stands
alone. -/
structure Canonical (digits : List Char) : Prop where
  nonempty : digits ≠ []
  digit : ∀ c ∈ digits, c.isDigit = true
  lead : digits.head? = some '0' → digits = ['0']

/-- The canonical text of an integer, which reads back as the same integer. Zero has no sign. -/
inductive Writes : Int → Text → Prop
  | plain {digits : List Char} (h : Canonical digits) : Writes (value digits) (Text.ofChars digits)
  | minus {digits : List Char} (h : Canonical digits) (nonzero : digits ≠ ['0']) :
      Writes (-(value digits : Int)) ('-' :: Text.ofChars digits)

theorem toDigits_head_ne_zero {n : Nat} (h : 0 < n) : (Nat.toDigits 10 n).head? ≠ some '0' := by
  induction n using Nat.strongRecOn with
  | ind n ih =>
    rw [Nat.toDigits_eq_if (by decide)]
    split
    · rename_i hlt
      have hdigit := Nat.toNat_digitChar_of_lt_ten hlt
      intro hz
      rw [List.head?_cons, Option.some.injEq] at hz
      rw [hz] at hdigit
      change 48 = 48 + n at hdigit
      omega
    · rename_i hge
      rw [List.head?_append, Option.or_of_isSome (List.isSome_head?.mpr Nat.toDigits_ne_nil)]
      exact ih (n / 10) (by omega) (by omega)

theorem canonical_toDigits (n : Nat) : Canonical (Nat.toDigits 10 n) where
  nonempty := Nat.toDigits_ne_nil
  digit _ hc := Nat.isDigit_of_mem_toDigits (by decide) (by decide) hc
  lead h := by
    cases n with
    | zero => rfl
    | succ n => exact absurd h (toDigits_head_ne_zero n.succ_pos)

theorem value_toDigits (n : Nat) : value (Nat.toDigits 10 n) = n := Nat.ofDigitChars_ten_toDigits

theorem writes_ofInt (n : Int) : Writes n (ofInt n) := by
  have hcanonical := canonical_toDigits n.natAbs
  have hvalue := value_toDigits n.natAbs
  by_cases h : n < 0
  · have hn : n = -(value (Nat.toDigits 10 n.natAbs) : Int) := by omega
    have hne : Nat.toDigits 10 n.natAbs ≠ ['0'] := by
      intro hz
      rw [hz] at hvalue
      change 0 = n.natAbs at hvalue
      omega
    have hw := Writes.minus hcanonical hne
    rw [← hn] at hw
    rw [ofInt, if_pos h]
    exact hw
  · have hn : n = (value (Nat.toDigits 10 n.natAbs) : Int) := by omega
    have hw := Writes.plain hcanonical
    rw [← hn] at hw
    rw [ofInt, if_neg h]
    exact hw

theorem fits_iff (n : Int) : Fits n ↔ n.natAbs < 10 ^ maxDigits :=
  Nat.length_toDigits_le_iff (by decide) (by decide)

theorem ofInt?_of_fits {n : Int} (h : Fits n) : ofInt? n = some (ofInt n) := if_pos h

theorem ofInt_ne_nil (n : Int) : ofInt n ≠ [] := by
  unfold ofInt
  split
  · nofun
  · exact fun h => Nat.toDigits_ne_nil (List.map_eq_nil_iff.mp h)

/-- So many digits make no greater number. -/
theorem value_lt {digits : List Char} (h : ∀ c ∈ digits, c.isDigit = true) :
    value digits < 10 ^ digits.length := by
  induction digits with
  | nil => decide
  | cons c digits ih =>
    have hc : c.toNat - '0'.toNat ≤ 9 := by
      have hd := h c List.mem_cons_self
      simp only [Char.isDigit, Bool.and_eq_true, decide_eq_true_eq, UInt32.le_iff_toNat_le] at hd
      change c.val.toNat - 48 ≤ 9
      have : c.val.toNat ≤ 57 := hd.2
      omega
    have hrest := ih (fun d hd => h d (List.mem_cons_of_mem c hd))
    rw [value] at hrest ⊢
    rw [Nat.ofDigitChars_cons, Nat.mul_zero, Nat.zero_add, Nat.ofDigitChars_eq_ofDigitChars_zero,
      List.length_cons, Nat.pow_succ]
    have := Nat.mul_le_mul_left (10 ^ digits.length) hc
    omega

end CloudDetector.Decimal
