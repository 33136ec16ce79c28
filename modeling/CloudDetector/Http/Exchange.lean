import CloudDetector.Encoding.Charset
import CloudDetector.Fault
import CloudDetector.Http.Headers

namespace CloudDetector.Http

structure Request where
  url : Text
  headers : List Field
  timeoutSeconds : Nat
deriving DecidableEq

/-- A body as it meets the client that reads it. Its bytes do not say everything. -/
structure Body where
  bytes : List UInt8
  /-- The text that the client finds by its own charsets and guesses, unless it fails there. -/
  clientText : Option Text
  /-- How many containers may be open at once where the body is read. -/
  room : Nat
  /-- No reader is called from so deep that less is left. -/
  ample : 401 ≤ room

namespace Body

/-- The bytes for a client that knows no charset of its own, falls back on UTF-8 and is called from
nowhere deep. -/
def ofBytes (bytes : List UInt8) : Body where
  bytes := bytes
  clientText := some (Text.ofChars (Encoding.Utf8.decode bytes))
  room := Json.Reader.usualRoom
  ample := by decide

instance : Coe (List UInt8) Body := ⟨ofBytes⟩

end Body

structure Response where
  status : Int
  headers : Headers
  body : Body

def Response.text? (r : Response) : Option Text :=
  Encoding.bodyText r.headers.contentType? r.body.bytes r.body.clientText

/-- What one request comes to. -/
inductive Reply
  | response (r : Response)
  /-- The transport gave up. -/
  | failed (name text : Text)
  /-- Something else broke on the way. -/
  | broken (fault : Fault)

/-- The replies to come, one for each request, without end. -/
structure Server where
  reply : Nat → Reply
  served : Nat

namespace Server

def next (s : Server) : Reply × Server := (s.reply s.served, { s with served := s.served + 1 })

/-- Replies in order; the last one repeats. -/
def ofScript (first : Reply) (more : List Reply) : Server :=
  ⟨fun n => (first :: more).getD n ((first :: more).getLast (List.cons_ne_nil first more)), 0⟩

end Server

end CloudDetector.Http
