import CloudDetector.Json.Numeral

namespace CloudDetector.Json

inductive Container
  | array
  | object
deriving DecidableEq

inductive ReadError
  | malformed
  | tooDeep (container : Container)
deriving DecidableEq

namespace Reader

/-- How many containers may be open at once lies with the caller, since each takes one call of a
limited number. This much is left of a thousand calls behind the first ten. -/
def usualRoom : Nat := 990

/-- An open container with what came before the value now read. Array items stand latest first. -/
inductive Frame
  | array (items : List Json)
  | object (members : List (Text × Json)) (name : Text)

/-- What a string is read for: a value, or the name of the next member. -/
inductive Use
  | value
  | name (members : List (Text × Json))

/-- What a string takes in: a code point that stands there, or a unit that an escape names. -/
inductive Piece
  | plain (c : CodePoint)
  | unit (u : CodePoint)

/-- Where the reader stands within a string. -/
inductive Escape
  | no
  | begun
  | unit (left : Nat) (soFar : Nat)

/-- What may come next. -/
inductive Mode
  | value
  | firstItem
  | firstName
  | name (members : List (Text × Json))
  | colon (members : List (Text × Json)) (name : Text)
  | closed (v : Json)
  | literal (next : Char) (left : List Char) (v : Json)
  | number (spelling : List Char)
  | string (use : Use) (taken : List Piece) (escape : Escape)

/-- A text is read one code point at a time. The frames stand innermost first. -/
structure State where
  frames : List Frame
  mode : Mode

def isBlank (c : Char) : Bool := c = ' ' || c = '\t' || c = '\n' || c = '\r'

def enter (room : Nat) (frames : List Frame) (c : Container) (s : State) : Except ReadError State :=
  if frames.length < room then .ok s else .error (.tooDeep c)

/-- The first character of a value. -/
def begin (room : Nat) (frames : List Frame) (c : Char) : Except ReadError State :=
  match c with
  | '"' => .ok ⟨frames, .string .value [] .no⟩
  | '[' => enter room frames .array ⟨.array [] :: frames, .firstItem⟩
  | '{' => enter room frames .object ⟨frames, .firstName⟩
  | 'n' => .ok ⟨frames, .literal 'u' ['l', 'l'] .null⟩
  | 't' => .ok ⟨frames, .literal 'r' ['u', 'e'] (.bool true)⟩
  | 'f' => .ok ⟨frames, .literal 'a' ['l', 's', 'e'] (.bool false)⟩
  | 'N' => .ok ⟨frames, .literal 'a' ['N'] (.double .nan)⟩
  | 'I' => .ok ⟨frames, .literal 'n' ['f', 'i', 'n', 'i', 't', 'y'] (.double (.infinity false))⟩
  | c => if c = '-' || c.isDigit then .ok ⟨frames, .number [c]⟩ else .error .malformed

/-- The character after a finished value. -/
def follow (frames : List Frame) (v : Json) (c : Char) : Except ReadError State :=
  if isBlank c then .ok ⟨frames, .closed v⟩
  else
    match frames, c with
    | .array items :: frames, ',' => .ok ⟨.array (v :: items) :: frames, .value⟩
    | .array items :: frames, ']' => .ok ⟨frames, .closed (.array (v :: items).reverse)⟩
    | .object members name :: frames, ',' => .ok ⟨frames, .name (putEntry name v members)⟩
    | .object members name :: frames, '}' => .ok ⟨frames, .closed (.object (putEntry name v members))⟩
    | _, _ => .error .malformed

/-- The character between a name and its value. -/
def separate (frames : List Frame) (members : List (Text × Json)) (name : Text) (c : Char) :
    Except ReadError State :=
  if isBlank c then .ok ⟨frames, .colon members name⟩
  else if c = ':' then .ok ⟨.object members name :: frames, .value⟩
  else .error .malformed

def Piece.codePoint : Piece → CodePoint
  | plain c => c
  | unit u => u

/-- A low surrogate joins the high one right before it, where escapes name both. -/
def takeUnit (u : CodePoint) (taken : List Piece) : List Piece :=
  match taken with
  | .unit high :: earlier =>
    if high.isHighSurrogate && u.isLowSurrogate then
      .plain (.ofNat (0x10000 + (high.val - 0xD800) * 0x400 + (u.val - 0xDC00))) :: earlier
    else .unit u :: taken
  | _ => .unit u :: taken

/-- The text of a string from what was taken, latest first. -/
def closeString (taken : List Piece) : Text := taken.reverse.map Piece.codePoint

def endString (frames : List Frame) (taken : List Piece) : Use → State
  | .value => ⟨frames, .closed (.string (closeString taken))⟩
  | .name members => ⟨frames, .colon members (closeString taken)⟩

/-- What a backslash and one letter stand for. -/
def unescape? : Char → Option Char
  | '"' => some '"'
  | '\\' => some '\\'
  | '/' => some '/'
  | 'b' => some '\x08'
  | 'f' => some '\x0C'
  | 'n' => some '\n'
  | 'r' => some '\r'
  | 't' => some '\t'
  | _ => none

def hexDigit? (c : Char) : Option Nat :=
  if c.isDigit then some (c.toNat - '0'.toNat)
  else if 'a' ≤ c && c ≤ 'f' then some (c.toNat - 'a'.toNat + 10)
  else if 'A' ≤ c && c ≤ 'F' then some (c.toNat - 'A'.toNat + 10)
  else none

def inString (frames : List Frame) (use : Use) (taken : List Piece) (escape : Escape)
    (c : Char) : Except ReadError State :=
  match escape with
  | .no =>
    if c = '"' then .ok (endString frames taken use)
    else if c = '\\' then .ok ⟨frames, .string use taken .begun⟩
    else if c < ' ' then .error .malformed
    else .ok ⟨frames, .string use (.plain c :: taken) .no⟩
  | .begun =>
    if c = 'u' then .ok ⟨frames, .string use taken (.unit 3 0)⟩
    else
      match unescape? c with
      | some d => .ok ⟨frames, .string use (.plain d :: taken) .no⟩
      | none => .error .malformed
  | .unit left soFar =>
    match hexDigit? c, left with
    | none, _ => .error .malformed
    | some d, 0 => .ok ⟨frames, .string use (takeUnit (.ofNat (16 * soFar + d)) taken) .no⟩
    | some d, left + 1 => .ok ⟨frames, .string use taken (.unit left (16 * soFar + d))⟩

def inNumber (c : Char) : Bool := c.isDigit || c = '.' || c = 'e' || c = 'E' || c = '+' || c = '-'

def step (room : Nat) (s : State) (c : Char) : Except ReadError State :=
  match s.mode with
  | .value => if isBlank c then .ok s else begin room s.frames c
  | .firstItem =>
    if isBlank c then .ok s
    else if c = ']' then .ok ⟨s.frames.tail, .closed (.array [])⟩
    else begin room s.frames c
  | .firstName =>
    if isBlank c then .ok s
    else if c = '}' then .ok ⟨s.frames, .closed (.object [])⟩
    else if c = '"' then .ok ⟨s.frames, .string (.name []) [] .no⟩
    else .error .malformed
  | .name members =>
    if isBlank c then .ok s
    else if c = '"' then .ok ⟨s.frames, .string (.name members) [] .no⟩
    else .error .malformed
  | .colon members name => separate s.frames members name c
  | .closed v => follow s.frames v c
  | .literal next left v =>
    if c = next then
      match left with
      | [] => .ok ⟨s.frames, .closed v⟩
      | next :: left => .ok ⟨s.frames, .literal next left v⟩
    else .error .malformed
  | .number spelling =>
    if inNumber c then .ok ⟨s.frames, .number (c :: spelling)⟩
    else if spelling = ['-'] ∧ c = 'I' then
      .ok ⟨s.frames, .literal 'n' ['f', 'i', 'n', 'i', 't', 'y'] (.double (.infinity true))⟩
    else
      match number? spelling.reverse with
      | some v => follow s.frames v c
      | none => .error .malformed
  | .string use taken escape => inString s.frames use taken escape c

/-- A surrogate is no character. It may stand in a string and joins nothing there. -/
def stepSurrogate (s : State) (c : CodePoint) : Except ReadError State :=
  match s.mode with
  | .string use taken .no => .ok ⟨s.frames, .string use (.plain c :: taken) .no⟩
  | _ => .error .malformed

def stepPoint (room : Nat) (s : State) (c : CodePoint) : Except ReadError State :=
  match c.char? with
  | some d => step room s d
  | none => stepSurrogate s c

def runText (room : Nat) (s : State) : Text → Except ReadError State
  | [] => .ok s
  | c :: t =>
    match stepPoint room s c with
    | .ok s => runText room s t
    | .error e => .error e

def start : State := ⟨[], .value⟩

/-- A text may end where one value is complete and nothing is open. -/
def finish (s : State) : Except ReadError Json :=
  match s.frames, s.mode with
  | [], .closed v => .ok v
  | [], .number spelling =>
    match number? spelling.reverse with
    | some v => .ok v
    | none => .error .malformed
  | _, _ => .error .malformed

theorem runText_append (room : Nat) (s : State) (before after : Text) :
    runText room s (before ++ after) =
      match runText room s before with
      | .ok s => runText room s after
      | .error e => .error e := by
  induction before generalizing s with
  | nil => rfl
  | cons c t ih =>
    simp only [List.cons_append, runText]
    cases stepPoint room s c with
    | ok s => exact ih s
    | error e => rfl

/-- What characters do to the reader. -/
def run (room : Nat) (s : State) (cs : List Char) : Except ReadError State :=
  runText room s (Text.ofChars cs)

theorem run_cons (room : Nat) (s : State) (c : Char) (cs : List Char) :
    run room s (c :: cs) =
      match step room s c with
      | .ok s => run room s cs
      | .error e => .error e := by
  simp only [run, Text.ofChars, List.map_cons, runText, stepPoint, CodePoint.char?_ofChar]

theorem run_append (room : Nat) (s : State) (before after : List Char) :
    run room s (before ++ after) =
      match run room s before with
      | .ok s => run room s after
      | .error e => .error e := by
  rw [run, Text.ofChars, List.map_append, runText_append]
  rfl

end Reader

/-- Reads a text with so much room for containers. -/
def readText (t : Text) (room : Nat) : Except ReadError Json :=
  match Reader.runText room Reader.start t with
  | .ok s => Reader.finish s
  | .error e => .error e

def read (cs : List Char) (room : Nat := Reader.usualRoom) : Except ReadError Json :=
  readText (Text.ofChars cs) room

theorem read_eq (cs : List Char) (room : Nat) :
    read cs room =
      match Reader.run room Reader.start cs with
      | .ok s => Reader.finish s
      | .error e => .error e := rfl

end CloudDetector.Json
