import CloudDetector.Encoding.Wide
import CloudDetector.Text.LetterCase
import CloudDetector.Text.Blank

namespace CloudDetector.Encoding

/-- The charsets that are known by name. -/
inductive Charset
  | ascii
  | latin1
  | utf8
deriving DecidableEq

namespace Charset

/-- What is no character becomes a replacement. -/
def decode : Charset → List UInt8 → List Char
  | ascii, bytes => bytes.map (fun b => if b.toNat < 0x80 then .ofNat b.toNat else replacement)
  | latin1, bytes => bytes.map (fun b => .ofNat b.toNat)
  | utf8, bytes => Utf8.decode bytes

theorem decode_nil (charset : Charset) : charset.decode [] = [] := by cases charset <;> rfl

def hyphenated (c : CodePoint) : CodePoint := if c = '_' then '-' else c

def asciiNames : List Text := ["us-ascii", "ascii"]

def latin1Names : List Text := ["iso-8859-1", "iso8859-1", "latin-1", "latin1"]

def utf8Names : List Text := ["utf-8", "utf8"]

/-- The charset of a name in any case. Many more names have charsets, of which a client knows some;
none of them is answered for here. -/
def named? (name : Text) : Option Charset :=
  let plain := name.lower.map hyphenated
  if plain ∈ asciiNames then some ascii
  else if plain ∈ latin1Names then some latin1
  else if plain ∈ utf8Names then some utf8
  else none

/-- A media type with its parameters, later ones first. -/
structure MediaType where
  name : Text
  parameters : List (Text × Text)

def isQuoteOrSpace (c : CodePoint) : Bool := c = '"' || c = '\'' || c = ' '

/-- A part without an equals sign is no parameter. Where it is the charset that stands without one,
the request itself breaks, so no response brings such a content type. -/
def parameter? (part : Text) : Option (Text × Text) :=
  (part.trim.splitFirst? '=').map (fun (key, value) =>
    ((key.stripWhile isQuoteOrSpace).lower, value.stripWhile isQuoteOrSpace))

def MediaType.ofText (t : Text) : MediaType :=
  let (first, more) := t.pieces ';'
  ⟨first.trim, (more.filterMap parameter?).reverse⟩

/-- The name of the charset that a content type declares, where it does: the parameter, or else a
default for text and one for JSON. -/
def declared? (contentType : Text) : Option Text :=
  let media := MediaType.ofText contentType
  match media.parameters.lookup (Text.ofString "charset") with
  | some [] => none
  | some name => some name
  | none =>
    if Text.occursIn "text" media.name then some "ISO-8859-1"
    else if Text.occursIn "application/json" media.name then some "utf-8"
    else none

end Charset

/-- A byte of ASCII other than zero. -/
def IsAsciiByte (b : UInt8) : Prop := 0 < b.toNat ∧ b.toNat < 0x80

instance (b : UInt8) : Decidable (IsAsciiByte b) := inferInstanceAs (Decidable (_ ∧ _))

/-- A form of Unicode that the first bytes of a document give away. -/
inductive Form
  | utf8
  | utf16 (order : ByteOrder)
  | utf32 (order : ByteOrder)

namespace Form

/-- Decodes bytes that are in the form throughout. -/
def decode? : Form → List UInt8 → Option (List Char)
  | utf8, bytes => Utf8.decode? bytes
  | utf16 order, bytes => Utf16.decode? order bytes
  | utf32 order, bytes => Utf32.decode? order bytes

/-- The zeros among the first four bytes of a text that begins with two ASCII characters. -/
def byZeros? (a b c d : UInt8) : Option Form :=
  match a == 0, b == 0, c == 0, d == 0 with
  | false, false, false, false => some utf8
  | true, false, true, false => some (utf16 .bigEndian)
  | false, true, false, true => some (utf16 .littleEndian)
  | true, true, true, false => some (utf32 .bigEndian)
  | false, true, true, true => some (utf32 .littleEndian)
  | _, _, _, _ => none

/-- The form that four bytes give away, and what is left to decode: a byte order mark is not part of
it. Fewer bytes give nothing away but ASCII. -/
def detect? (bytes : List UInt8) : Option (Form × List UInt8) :=
  match bytes with
  | 0xFF :: 0xFE :: 0 :: 0 :: rest => some (utf32 .littleEndian, rest)
  | 0 :: 0 :: 0xFE :: 0xFF :: rest => some (utf32 .bigEndian, rest)
  | 0xEF :: 0xBB :: 0xBF :: b :: rest => some (utf8, b :: rest)
  | 0xFF :: 0xFE :: b :: c :: rest => some (utf16 .littleEndian, b :: c :: rest)
  | 0xFE :: 0xFF :: b :: c :: rest => some (utf16 .bigEndian, b :: c :: rest)
  | a :: b :: c :: d :: _ => (byZeros? a b c d).map (·, bytes)
  | _ => if bytes.all (IsAsciiByte ·) then some (utf8, bytes) else none

end Form

/-- The text of a body under a content type. A charset of another name, bytes that give no form away
and bytes that are not in the form they give away are for the client: it finds a text of its own,
or none. -/
def bodyText (contentType : Option Text) (bytes : List UInt8) (client : Option Text) :
    Option Text :=
  if bytes.isEmpty then some []
  else
    match contentType.bind Charset.declared? with
    | some name =>
      match Charset.named? name with
      | some charset => some (Text.ofChars (charset.decode bytes))
      | none => client
    | none =>
      match (Form.detect? bytes).bind (fun (form, rest) => form.decode? rest) with
      | some cs => some (Text.ofChars cs)
      | none => client

end CloudDetector.Encoding
