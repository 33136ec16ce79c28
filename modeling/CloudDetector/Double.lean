namespace CloudDetector

/-- A binary64 number, by its bits. -/
structure Double where
  bits : UInt64
deriving DecidableEq

namespace Double

def negative (d : Double) : Bool := d.bits.toNat / Nat.pow 2 63 = 1

def exponentField (d : Double) : Nat := d.bits.toNat / Nat.pow 2 52 % Nat.pow 2 11

def fractionField (d : Double) : Nat := d.bits.toNat % Nat.pow 2 52

def isFinite (d : Double) : Bool := d.exponentField < 2047

def isNaN (d : Double) : Bool := d.exponentField = 2047 && d.fractionField ≠ 0

/-- The magnitude of a finite number is `significand * 2 ^ (scale - 1074)`. -/
def significand (d : Double) : Nat :=
  if d.exponentField = 0 then d.fractionField else Nat.pow 2 52 + d.fractionField

def scale (d : Double) : Nat := d.exponentField - 1

/-- The whole part of the magnitude. -/
def wholePart (d : Double) : Nat := d.significand * Nat.pow 2 d.scale / Nat.pow 2 1074

/-- Rounds toward zero; NaN and the infinities have no integer. -/
def truncate? (d : Double) : Option Int :=
  if d.isFinite then some (if d.negative then -(d.wholePart : Int) else d.wholePart) else none

/-- From a sign and the remaining 63 bits. -/
def ofParts (negative : Bool) (magnitude : Nat) : Double :=
  ⟨.ofNat ((if negative then Nat.pow 2 63 else 0) + magnitude)⟩

def infinityBits : Nat := 2047 * Nat.pow 2 52

def infinity (negative : Bool) : Double := ofParts negative infinityBits

def nan : Double := ofParts false (infinityBits + Nat.pow 2 51)

/-- The integer nearest to a quotient; halfway, the even one. -/
def roundQuotient (num den : Nat) : Nat :=
  let q := num / den
  let r := num % den
  if 2 * r < den ∨ (2 * r = den ∧ q % 2 = 0) then q else q + 1

/-- How far the binary point of `num / den` moves right for the quotient to keep 53 bits, or as
many as reach down to `2 ^ -1074`. The result counts from that end. -/
def scaleOf (num den : Nat) : Nat :=
  -- The quotient lies between `2 ^ (a - b - 1)` and `2 ^ (a - b + 1)`.
  let a := num.log2
  let b := den.log2
  let low := if den * Nat.pow 2 a ≤ num * Nat.pow 2 b then a + 1074 else a + 1073
  low - (b + 52)

/-- The bits, sign aside, of the double nearest to `num / den`; past the last double, infinity. -/
def magnitudeOf (num den : Nat) : Nat :=
  let s := scaleOf num den
  min (s * Nat.pow 2 52 + roundQuotient (num * Nat.pow 2 1074) (den * Nat.pow 2 s)) infinityBits

/-- The double nearest to `m * 10 ^ e`. Exponents out of all range are settled without the power. -/
def ofScientific (negative : Bool) (m : Nat) (e : Int) : Double :=
  ofParts negative <|
    if m = 0 ∨ e < -(m.log2 + 326 : Int) then 0
    else if 309 < e then infinityBits
    else magnitudeOf (m * Nat.pow 10 e.toNat) (Nat.pow 10 (-e).toNat)

end Double

end CloudDetector
