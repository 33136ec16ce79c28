import CloudDetector.Double
import Mathlib.Algebra.Order.Field.Power
import Mathlib.Data.Nat.Cast.Order.Field
import Mathlib.Data.Rat.Cast.Order
import Mathlib.Tactic.FieldSimp
import Mathlib.Tactic.Linarith
import Mathlib.Tactic.Positivity
import Mathlib.Tactic.Ring

namespace CloudDetector

/-- An integer is a number without its fraction: no larger, less than one away, and of its sign. -/
structure TruncatedFrom (x : ℚ) (n : ℤ) : Prop where
  le : |(n : ℚ)| ≤ |x|
  lt : |x| < |(n : ℚ)| + 1
  sign : n = 0 ∨ 0 < n ∧ 0 < x ∨ n < 0 ∧ x < 0

/-- There is one such integer. -/
theorem TruncatedFrom.unique {x : ℚ} {n m : ℤ} (hn : TruncatedFrom x n) (hm : TruncatedFrom x m) :
    n = m := by
  have hnm : |n| < |m| + 1 := by
    have := hn.le.trans_lt hm.lt
    exact_mod_cast this
  have hmn : |m| < |n| + 1 := by
    have := hm.le.trans_lt hn.lt
    exact_mod_cast this
  have habs : |n| = |m| := by omega
  rcases abs_eq_abs.mp habs with h | h
  · exact h
  · rcases hn.sign with h₁ | ⟨h₁, hx⟩ | ⟨h₁, hx⟩
    · omega
    · rcases hm.sign with h₂ | ⟨h₂, _⟩ | ⟨_, hx'⟩
      · omega
      · omega
      · linarith
    · rcases hm.sign with h₂ | ⟨_, hx'⟩ | ⟨h₂, _⟩
      · omega
      · linarith
      · omega

theorem truncatedFrom_self (n : ℤ) : TruncatedFrom n n where
  le := le_rfl
  lt := lt_add_one _
  sign := by
    rcases lt_trichotomy n 0 with h | h | h
    · exact .inr (.inr ⟨h, by exact_mod_cast h⟩)
    · exact .inl h
    · exact .inr (.inl ⟨h, by exact_mod_cast h⟩)

/-- A whole number next below a magnitude, with the sign put to both. -/
theorem truncatedFrom_floor {x : ℚ} {n : ℕ} (hle : (n : ℚ) ≤ x) (hlt : x < n + 1)
    (negative : Bool) :
    TruncatedFrom ((if negative then -1 else 1) * x) (if negative then -(n : ℤ) else n) := by
  have hx : 0 ≤ x := (Nat.cast_nonneg n).trans hle
  have habs : |(if negative then (-1 : ℚ) else 1) * x| = x := by
    cases negative <;> simp [abs_of_nonneg hx]
  have hn : |((if negative then -(n : ℤ) else n : ℤ) : ℚ)| = n := by
    cases negative <;> simp
  refine ⟨?_, ?_, ?_⟩
  · rw [habs, hn]
    exact hle
  · rw [habs, hn]
    exact hlt
  · rcases Nat.eq_zero_or_pos n with rfl | h
    · left
      cases negative <;> rfl
    · have hpos : 0 < x := lt_of_lt_of_le (by exact_mod_cast h) hle
      right
      cases negative with
      | false => exact .inl ⟨by simpa using h, by simpa using hpos⟩
      | true => exact .inr ⟨by simpa using h, by simpa using hpos⟩

namespace Double

/-- The magnitude that finite bits stand for: a binary exponent and a fraction, with a one before the
point except at the lowest exponent. -/
def magnitude (d : Double) : ℚ :=
  if d.exponentField = 0 then (d.fractionField : ℚ) / 2 ^ 52 * 2 ^ (-1022 : ℤ)
  else (1 + (d.fractionField : ℚ) / 2 ^ 52) * 2 ^ ((d.exponentField : ℤ) - 1023)

/-- The exact number that finite bits stand for. -/
def value (d : Double) : ℚ := (if d.negative then -1 else 1) * d.magnitude

/-- No number at all, or none that is finite. -/
def IsSpecial (d : Double) : Prop := d.isNaN = true ∨ ∃ negative, d = infinity negative

theorem magnitude_eq (d : Double) :
    d.magnitude = ((d.significand * Nat.pow 2 d.scale : ℕ) : ℚ) / (Nat.pow 2 1074 : ℕ) := by
  unfold magnitude significand scale
  simp only [Nat.pow_eq, Nat.cast_mul, Nat.cast_pow, Nat.cast_ofNat]
  split
  · rename_i h
    rw [h, show (-1022 : ℤ) = 52 - 1074 from rfl, zpow_sub₀ two_ne_zero, zpow_ofNat, zpow_ofNat,
      Nat.zero_sub, pow_zero, mul_one]
    field_simp
  · rename_i h
    obtain ⟨e, he⟩ : ∃ e, d.exponentField = e + 1 := Nat.exists_eq_succ_of_ne_zero h
    have hexp : ((e + 1 : ℕ) : ℤ) - 1023 = e + 52 - 1074 := by omega
    rw [he, hexp, zpow_sub₀ two_ne_zero, zpow_add₀ two_ne_zero, zpow_natCast, zpow_ofNat,
      zpow_ofNat, Nat.add_sub_cancel, Nat.cast_add, Nat.cast_pow, Nat.cast_ofNat]
    field_simp

/-- Whatever is finite is a number, and nothing else is. -/
theorem finite_iff (d : Double) : d.isFinite = true ↔ ¬d.IsSpecial := by
  rw [isFinite, decide_eq_true_eq]
  constructor
  · rintro h (hnan | ⟨negative, rfl⟩)
    · rw [isNaN, Bool.and_eq_true, decide_eq_true_eq] at hnan
      omega
    · cases negative <;> exact absurd h (by decide)
  · intro hspecial
    have hexp : d.exponentField < 2048 := Nat.mod_lt _ (by decide)
    by_contra hlt
    have hmax : d.exponentField = 2047 := by omega
    apply hspecial
    by_cases hfraction : d.fractionField = 0
    · right
      refine ⟨d.negative, congrArg Double.mk (UInt64.toNat_inj.mp ?_)⟩
      have hbits : d.bits.toNat < 2 ^ 64 := d.bits.toNat_lt
      simp only [exponentField, fractionField, Nat.pow_eq, Nat.reducePow] at hmax hfraction
      simp only [negative, infinityBits, UInt64.toNat_ofNat', Nat.pow_eq, Nat.reducePow,
        decide_eq_true_eq] at hbits ⊢
      split <;> omega
    · left
      rw [isNaN, hmax]
      simpa using hfraction

/-- A finite number loses its fraction. -/
theorem truncate_finite {d : Double} (h : d.isFinite = true) :
    ∃ n, d.truncate? = some n ∧ TruncatedFrom d.value n ∧ n.natAbs = d.wholePart := by
  rw [truncate?, if_pos h]
  refine ⟨_, rfl, ?_, by cases d.negative <;> simp⟩
  have hpow : ∀ k, 0 < Nat.pow 2 k := Nat.two_pow_pos
  have hk : (0 : ℚ) < (Nat.pow 2 1074 : ℕ) := Nat.cast_pos.mpr (hpow 1074)
  apply truncatedFrom_floor
  · rw [magnitude_eq]
    exact Nat.cast_div_le
  · rw [magnitude_eq, div_lt_iff₀ hk]
    exact_mod_cast Nat.lt_mul_of_div_lt (Nat.lt_succ_self d.wholePart) (hpow 1074)

theorem div_two_pow_lt {m a s k b : ℕ} (hm : m < 2 ^ a) (h : a + s ≤ k + b) :
    m * Nat.pow 2 s / Nat.pow 2 k < 2 ^ b := by
  rw [Nat.pow_eq, Nat.pow_eq]
  apply Nat.div_lt_of_lt_mul
  calc m * 2 ^ s < 2 ^ a * 2 ^ s := Nat.mul_lt_mul_of_pos_right hm (Nat.two_pow_pos s)
    _ = 2 ^ (a + s) := (Nat.pow_add 2 a s).symm
    _ ≤ 2 ^ (k + b) := Nat.pow_le_pow_right Nat.two_pos h
    _ = 2 ^ k * 2 ^ b := Nat.pow_add 2 k b

/-- Written out, no finite number has more than 309 digits. -/
theorem wholePart_lt {d : Double} (h : d.isFinite = true) : d.wholePart < 10 ^ 309 := by
  have hexp : d.exponentField < 2047 := of_decide_eq_true h
  have hfraction : d.fractionField < 2 ^ 52 := Nat.mod_lt _ (Nat.two_pow_pos 52)
  have hsignificand : d.significand < 2 ^ 53 := by
    unfold significand
    rw [Nat.pow_eq]
    split <;> omega
  have hscale : 53 + d.scale ≤ 1074 + 1024 := by
    unfold scale
    omega
  have hbound : 2 ^ 1024 < 10 ^ 309 := by decide +kernel
  rw [wholePart]
  generalize 1074 = k at hscale ⊢
  exact Nat.lt_trans (div_two_pow_lt hsignificand hscale) hbound

end Double
end CloudDetector
