import CloudDetector.Json.Basic
import CloudDetector.Proofs.DecimalText

namespace CloudDetector.Json

/-- The characters that may stand between tokens and mean nothing. -/
def Blanks (cs : List Char) : Prop := ∀ c ∈ cs, c ∈ [' ', '\t', '\n', '\r']

def signText (negative : Bool) : List Char := if negative then ['-'] else []

/-- One digit or more, zeros in front included. -/
def Digits (digits : List Char) : Prop := digits ≠ [] ∧ ∀ c ∈ digits, c.isDigit = true

inductive ExponentSpelling : Int → List Char → Prop
  | plain {e : Char} {digits : List Char} (mark : e = 'e' ∨ e = 'E') (h : Digits digits) :
      ExponentSpelling (Decimal.value digits) (e :: digits)
  | plus {e : Char} {digits : List Char} (mark : e = 'e' ∨ e = 'E') (h : Digits digits) :
      ExponentSpelling (Decimal.value digits) (e :: '+' :: digits)
  | minus {e : Char} {digits : List Char} (mark : e = 'e' ∨ e = 'E') (h : Digits digits) :
      ExponentSpelling (-(Decimal.value digits : Int)) (e :: '-' :: digits)

/-- Whole numbers are exact, and written without more digits than may be. With a point or an exponent
a number stands for the double next to it. -/
inductive NumberSpelling : Json → List Char → Prop
  | integer {whole : List Char} (negative : Bool) (h : Decimal.Canonical whole)
      (short : whole.length ≤ Decimal.maxDigits) :
      NumberSpelling
        (.integer (if negative then -(Decimal.value whole : Int) else Decimal.value whole))
        (signText negative ++ whole)
  | fraction {whole places : List Char} (negative : Bool) (h : Decimal.Canonical whole)
      (hp : Digits places) :
      NumberSpelling
        (.double (.ofScientific negative (Decimal.value (whole ++ places)) (-places.length)))
        (signText negative ++ whole ++ '.' :: places)
  | exponent {whole cs : List Char} {e : Int} (negative : Bool) (h : Decimal.Canonical whole)
      (he : ExponentSpelling e cs) :
      NumberSpelling (.double (.ofScientific negative (Decimal.value whole) e))
        (signText negative ++ whole ++ cs)
  | scientific {whole places cs : List Char} {e : Int} (negative : Bool)
      (h : Decimal.Canonical whole) (hp : Digits places) (he : ExponentSpelling e cs) :
      NumberSpelling
        (.double (.ofScientific negative (Decimal.value (whole ++ places)) (e - places.length)))
        (signText negative ++ whole ++ '.' :: places ++ cs)

/-- A hexadecimal digit in either case. -/
def HexSpelling (n : Nat) (c : Char) : Prop :=
  "0123456789abcdef".toList[n]? = some c ∨ "0123456789ABCDEF".toList[n]? = some c

/-- An escape that names a number of sixteen bits. -/
inductive UnitSpelling : Nat → List Char → Prop
  | digits {h i j k : Nat} {a b c d : Char} (ha : HexSpelling h a) (hb : HexSpelling i b)
      (hc : HexSpelling j c) (hd : HexSpelling k d) :
      UnitSpelling (16 * (16 * (16 * h + i) + j) + k) ['\\', 'u', a, b, c, d]

/-- What a backslash and one letter stand for. -/
def shortEscapes : List (Char × Char) :=
  [('"', '"'), ('\\', '\\'), ('/', '/'), ('b', '\x08'), ('f', '\x0C'), ('n', '\n'), ('r', '\r'),
    ('t', '\t')]

/-- The spellings of one character in a string. Beyond sixteen bits an escape takes a pair. -/
inductive CharSpelling : Char → List Char → Prop
  | raw {c : Char} (h : ' ' ≤ c) (quote : c ≠ '"') (backslash : c ≠ '\\') : CharSpelling c [c]
  | short {letter c : Char} (h : (letter, c) ∈ shortEscapes) : CharSpelling c ['\\', letter]
  | unit {c : Char} {cs : List Char} (h : UnitSpelling c.toNat cs) : CharSpelling c cs
  | pair {c : Char} {high low : Nat} {cs ds : List Char} (hh : 0xD800 ≤ high ∧ high ≤ 0xDBFF)
      (hl : 0xDC00 ≤ low ∧ low ≤ 0xDFFF)
      (h : c.toNat = 0x10000 + (high - 0xD800) * 0x400 + (low - 0xDC00))
      (hcs : UnitSpelling high cs) (hds : UnitSpelling low ds) : CharSpelling c (cs ++ ds)

/-- The spellings of a string between its quotes. -/
inductive StringSpelling : List Char → List Char → Prop
  | nil : StringSpelling [] []
  | cons {c : Char} {t cs ds : List Char} (h : CharSpelling c cs) (ht : StringSpelling t ds) :
      StringSpelling (c :: t) (cs ++ ds)

def mayStand (c : Char) : Bool := ' ' ≤ c && c != '"' && c != '\\'

/-- A string may stand as it is, but for quotes, backslashes and what no text may hold. -/
theorem StringSpelling.raw {t : List Char} (h : t.all mayStand = true) : StringSpelling t t := by
  induction t with
  | nil => exact .nil
  | cons c t ih =>
    simp only [List.all_cons, mayStand, Bool.and_eq_true, decide_eq_true_eq, bne_iff_ne] at h
    obtain ⟨⟨⟨hc, hquote⟩, hbackslash⟩, ht⟩ := h
    exact .cons (.raw hc hquote hbackslash) (ih ht)

def literals : List (List Char × Json) :=
  [("null".toList, .null), ("true".toList, .bool true), ("false".toList, .bool false),
    ("NaN".toList, .double .nan), ("Infinity".toList, .double (.infinity false)),
    ("-Infinity".toList, .double (.infinity true))]

/-- The kinds of phrase in a text, each with what it stands for. An element is a value with blanks
around it. -/
inductive Phrase
  | value (v : Json)
  | element (v : Json)
  | items (vs : List Json)
  | member (name : Text) (v : Json)
  | members (ms : List (Text × Json))

/-- The spellings of a phrase in which no more than so many containers stand within one another. Of
two members with one name the later counts. -/
inductive Spells : Nat → Phrase → List Char → Prop
  | literal {n : Nat} {v : Json} {cs : List Char} (h : (cs, v) ∈ literals) :
      Spells n (.value v) cs
  | number {n : Nat} {v : Json} {cs : List Char} (h : NumberSpelling v cs) :
      Spells n (.value v) cs
  | string {n : Nat} {t cs : List Char} (h : StringSpelling t cs) :
      Spells n (.value (.string (Text.ofChars t))) ('"' :: (cs ++ ['"']))
  | emptyArray {n : Nat} {cs : List Char} (h : Blanks cs) :
      Spells (n + 1) (.value (.array [])) ('[' :: (cs ++ [']']))
  | array {n : Nat} {vs : List Json} {cs : List Char} (h : Spells n (.items vs) cs) :
      Spells (n + 1) (.value (.array vs)) ('[' :: (cs ++ [']']))
  | emptyObject {n : Nat} {cs : List Char} (h : Blanks cs) :
      Spells (n + 1) (.value (.object [])) ('{' :: (cs ++ ['}']))
  | object {n : Nat} {ms : List (Text × Json)} {cs : List Char} (h : Spells n (.members ms) cs) :
      Spells (n + 1) (.value (.object ms)) ('{' :: (cs ++ ['}']))
  | element {n : Nat} {v : Json} {before cs after : List Char} (hb : Blanks before)
      (h : Spells n (.value v) cs) (ha : Blanks after) :
      Spells n (.element v) (before ++ (cs ++ after))
  | item {n : Nat} {v : Json} {cs : List Char} (h : Spells n (.element v) cs) :
      Spells n (.items [v]) cs
  | nextItem {n : Nat} {vs : List Json} {v : Json} {cs ds : List Char}
      (hs : Spells n (.items vs) cs) (h : Spells n (.element v) ds) :
      Spells n (.items (vs ++ [v])) (cs ++ ',' :: ds)
  | member {n : Nat} {name : List Char} {v : Json} {before cs after ds : List Char}
      (hb : Blanks before) (hn : StringSpelling name cs) (ha : Blanks after)
      (h : Spells n (.element v) ds) :
      Spells n (.member (Text.ofChars name) v)
        (before ++ '"' :: (cs ++ '"' :: (after ++ ':' :: ds)))
  | firstMember {n : Nat} {name : Text} {v : Json} {cs : List Char}
      (h : Spells n (.member name v) cs) : Spells n (.members [(name, v)]) cs
  | nextMember {n : Nat} {ms : List (Text × Json)} {name : Text} {v : Json} {cs ds : List Char}
      (hs : Spells n (.members ms) cs) (h : Spells n (.member name v) ds) :
      Spells n (.members (putEntry name v ms)) (cs ++ ',' :: ds)

theorem Spells.object_braces {depth : Nat} {members : List (Text × Json)} {cs : List Char}
    (h : Spells depth (.value (.object members)) cs) :
    ∃ inner, cs = '{' :: (inner ++ ['}']) := by
  cases h with
  | literal h => simp [literals] at h
  | number h => cases h
  | emptyObject _ | object _ => exact ⟨_, rfl⟩

end CloudDetector.Json
