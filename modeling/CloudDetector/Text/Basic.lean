namespace CloudDetector

/-- A Unicode code point. Surrogates count, since an escape can name one on its own. -/
abbrev CodePoint := Fin 0x110000

/-- A sequence of code points, compared one by one and never normalized. -/
abbrev Text := List CodePoint

namespace CodePoint

def ofChar (c : Char) : CodePoint :=
  ⟨c.toNat, by
    have h := c.valid
    simp only [UInt32.isValidChar, Nat.isValidChar] at h
    change c.val.toNat < 0x110000
    omega⟩

instance : Coe Char CodePoint := ⟨ofChar⟩

def ofNat (n : Nat) : CodePoint := Fin.ofNat 0x110000 n

def isHighSurrogate (c : CodePoint) : Bool := 0xD800 ≤ c.val && c.val ≤ 0xDBFF

def isLowSurrogate (c : CodePoint) : Bool := 0xDC00 ≤ c.val && c.val ≤ 0xDFFF

/-- The character of a code point, unless it is a surrogate. -/
def char? (c : CodePoint) : Option Char :=
  if c.val.isValidChar then some (.ofNat c.val) else none

theorem char?_ofChar (c : Char) : (ofChar c).char? = some c := by
  have h : (ofChar c).val.isValidChar := c.valid
  rw [char?, if_pos h]
  exact congrArg some c.ofNat_toNat

theorem char?_eq_some_iff {c : CodePoint} {d : Char} : c.char? = some d ↔ c = ofChar d := by
  constructor
  · intro h
    by_cases hv : c.val.isValidChar
    · rw [char?, if_pos hv, Option.some.injEq, Char.ofNat, dif_pos hv] at h
      rw [← h]
      rfl
    · rw [char?, if_neg hv] at h
      cases h
  · rintro rfl
    exact char?_ofChar d

theorem ofChar_inj {c d : Char} : ofChar c = ofChar d ↔ c = d := by
  rw [← char?_eq_some_iff, char?_ofChar, Option.some.injEq]

end CodePoint

namespace Text

def ofChars (cs : List Char) : Text := cs.map CodePoint.ofChar

def ofString (s : String) : Text := ofChars s.toList

instance : Coe String Text := ⟨ofString⟩

/-- For showing to people: a lone surrogate has no character and becomes U+FFFD. -/
def toString (t : Text) : String :=
  String.ofList (t.map (fun c => c.char?.getD '\uFFFD'))

end Text

end CloudDetector
