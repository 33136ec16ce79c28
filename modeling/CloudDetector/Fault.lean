import CloudDetector.Json.Reader
import CloudDetector.Text.Quoted

namespace CloudDetector

/-- What goes wrong without being an answer: it stops what is being done and leaves it to the
caller. The orders to stop that a process gets from outside, such as an interrupt, are none: nothing
here catches them. -/
inductive Fault
  /-- A document is nested too deep to read. -/
  | tooDeep (container : Json.Container)
  /-- A policy was asked that decides nothing. -/
  | undecided
  | missingKey (key : Text)
  /-- Any other fault, by its name and text. -/
  | other (name text : Text)
deriving DecidableEq

def Json.Container.noun : Json.Container → Text
  | .array => "array"
  | .object => "object"

namespace Fault

def text : Fault → Text
  | tooDeep container =>
    "maximum recursion depth exceeded while decoding a JSON " ++ container.noun ++
      " from a unicode string"
  | undecided => []
  | missingKey key => key.quoted
  | other _ text => text

end Fault

end CloudDetector
