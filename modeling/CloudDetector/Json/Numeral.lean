import CloudDetector.Json.Basic
import CloudDetector.Text.Decimal

namespace CloudDetector.Json

/-- The parts of a number's spelling. -/
structure Numeral where
  negative : Bool
  whole : List Char
  fraction : Option (List Char)
  exponent : Option Int

namespace Numeral

def sign : List Char → Bool × List Char
  | '-' :: s => (true, s)
  | s => (false, s)

/-- One digit or more. -/
def digits? (s : List Char) : Option (List Char × List Char) :=
  let taken := s.takeWhile Char.isDigit
  if taken.isEmpty then none else some (taken, s.dropWhile Char.isDigit)

/-- A zero in front stands alone. -/
def whole? (s : List Char) : Option (List Char × List Char) :=
  match digits? s with
  | some ('0' :: _ :: _, _) => none
  | r => r

def fraction? : List Char → Option (Option (List Char) × List Char)
  | '.' :: s => (digits? s).map (fun (taken, rest) => (some taken, rest))
  | s => some (none, s)

def signedDigits? (s : List Char) : Option (Int × List Char) :=
  match s with
  | '-' :: s => (digits? s).map (fun (taken, rest) => (-(Decimal.value taken : Int), rest))
  | '+' :: s => (digits? s).map (fun (taken, rest) => ((Decimal.value taken : Int), rest))
  | s => (digits? s).map (fun (taken, rest) => ((Decimal.value taken : Int), rest))

def exponent? : List Char → Option (Option Int × List Char)
  | 'e' :: s | 'E' :: s => (signedDigits? s).map (fun (n, rest) => (some n, rest))
  | s => some (none, s)

/-- Reads a spelling that is a number from end to end. -/
def read? (s : List Char) : Option Numeral :=
  let (negative, s) := sign s
  match whole? s with
  | none => none
  | some (whole, s) =>
    match fraction? s with
    | none => none
    | some (fraction, s) =>
      match exponent? s with
      | some (exponent, []) => some ⟨negative, whole, fraction, exponent⟩
      | _ => none

/-- Without a point and an exponent the number is an integer, unless it has too many digits. -/
def value? (n : Numeral) : Option Json :=
  match n.fraction, n.exponent with
  | none, none =>
    if n.whole.length ≤ Decimal.maxDigits then
      let magnitude : Int := Decimal.value n.whole
      some (.integer (if n.negative then -magnitude else magnitude))
    else none
  | fraction, exponent =>
    let places := fraction.getD []
    some (.double (.ofScientific n.negative (Decimal.value (n.whole ++ places))
      (exponent.getD 0 - places.length)))

end Numeral

/-- The number that a whole spelling stands for. -/
def number? (s : List Char) : Option Json := (Numeral.read? s).bind Numeral.value?

end CloudDetector.Json
