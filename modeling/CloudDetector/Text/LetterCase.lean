import CloudDetector.Text.LetterCase.Table

namespace CloudDetector
namespace LetterCase

def Capitals.lower? (r : Capitals) (c : CodePoint) : Option CodePoint :=
  if r.first ≤ c.val ∧ c.val ≤ r.last ∧ (c.val - r.first) % r.stride = 0 then
    some (.ofNat (r.small + (c.val - r.first)))
  else none

def small (c : CodePoint) : CodePoint := (capitals.findSome? (·.lower? c)).getD c

/-- A letter with case is next, read away from the place in question. -/
def lettersNext (t : Text) : Bool :=
  match t.find? (fun c => !skipped.contains c) with
  | some c => cased.contains c
  | none => false

/-- One letter in lower case, given what comes before it (latest first) and after it. Sigma has a
form of its own at the end of a word, and the dotted capital I becomes two code points. -/
def lowerAt (before : Text) (c : CodePoint) (after : Text) : Text :=
  if c = 'Σ' then [if lettersNext before && !lettersNext after then 'ς' else 'σ']
  else if c = 'İ' then ['i', '\u0307']
  else [small c]

def lowerFrom (before : Text) : Text → Text
  | [] => []
  | c :: t => lowerAt before c t ++ lowerFrom (c :: before) t

end LetterCase

/-- The whole text in lower case, beyond ASCII too. -/
def Text.lower (t : Text) : Text := LetterCase.lowerFrom [] t

end CloudDetector
