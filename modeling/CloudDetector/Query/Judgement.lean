import CloudDetector.Log
import CloudDetector.Query.Endpoint

namespace CloudDetector.Query

/-- What a status means, unless it is one of success. Overload and trouble at the server may pass; the
other refusals stay. -/
def statusFailure? (status : Int) : Option Outcome :=
  if 200 ≤ status ∧ status < 300 then none
  else if status < 200 ∨ status = 429 ∨ 500 ≤ status then some (.retryable (.status status))
  else some (.fatal (.status status))

def isJsonContent (f : Http.Field) : Bool :=
  f.name.trim.lower == "content-type" &&
    (Text.ofString "application/json").isPrefixOf f.value.trim.lower

def isFlavor (f : Http.Field) : Bool :=
  f.name.trim.lower == "metadata-flavor" && f.value.trim.lower == "google"

/-- One field says that the content is JSON, and one that a metadata server is speaking. -/
def validHeaders (fields : List Http.Field) : Bool := fields.any isJsonContent && fields.any isFlavor

def projectKey : Text := "project"

/-- What a judgement comes to, and what it tells the log. -/
structure Judgement where
  result : Except Fault Outcome
  records : List Log.Record

def undecodable : Log.Record := ⟨.fetching, .debug, .undecodable⟩

/-- A document is an object with a project. -/
def judgeDocument (document : Json) : Outcome :=
  match document.member? projectKey with
  | some _ => .success document
  | none => .retryable .payload

/-- What the body of a response reads as. Without a text it is no document. -/
def bodyRead (r : Http.Response) : Except Json.ReadError Json :=
  match r.text? with
  | some text => Json.readText text r.body.room
  | none => .error .malformed

/-- What becomes of a body once it is read. -/
def judgeRead : Except Json.ReadError Json → Judgement
  | .ok document => ⟨.ok (judgeDocument document), []⟩
  | .error .malformed => ⟨.ok (.retryable .payload), [undecodable]⟩
  | .error (.tooDeep container) => ⟨.error (.tooDeep container), []⟩

/-- What is raised for a status that is too long to be written. -/
def overlong : Fault := .other "ValueError"
  ("Exceeds the limit (4300 digits) for integer string conversion; " ++
    "use sys.set_int_max_str_digits() to increase the limit")

/-- What a status means can be told only if the status can be written. -/
def judgeStatus (status : Int) (outcome : Outcome) : Judgement :=
  ⟨if Decimal.Fits status then .ok outcome else .error overlong, []⟩

/-- Status first, then headers, then body. -/
def judgeResponse (r : Http.Response) : Judgement :=
  match statusFailure? r.status with
  | some outcome => judgeStatus r.status outcome
  | none =>
    if validHeaders r.headers.fields then judgeRead (bodyRead r)
    else ⟨.ok (.retryable .headers), []⟩

def judge : Http.Reply → Judgement
  | .response r => judgeResponse r
  | .failed name text => ⟨.ok (.fatal (.transport name text)), []⟩
  | .broken fault => ⟨.error fault, []⟩

end CloudDetector.Query
