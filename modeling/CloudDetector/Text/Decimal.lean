import CloudDetector.Text.Basic

namespace CloudDetector.Decimal

/-- An integer with more digits than this is neither read nor written. -/
def maxDigits : Nat := 4300

/-- An integer that is neither too long to read nor to write. -/
def Fits (n : Int) : Prop := (Nat.toDigits 10 n.natAbs).length ≤ maxDigits

instance (n : Int) : Decidable (Fits n) := inferInstanceAs (Decidable (_ ≤ _))

def ofInt (n : Int) : Text :=
  if n < 0 then '-' :: Text.ofChars (Nat.toDigits 10 n.natAbs)
  else Text.ofChars (Nat.toDigits 10 n.natAbs)

def ofInt? (n : Int) : Option Text :=
  if Fits n then some (ofInt n) else none

/-- The value of a run of decimal digits. -/
def value (digits : List Char) : Nat := Nat.ofDigitChars 10 digits 0

end CloudDetector.Decimal
