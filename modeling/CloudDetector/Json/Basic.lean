import CloudDetector.Double
import CloudDetector.Table

namespace CloudDetector

/-- A JSON value. Whole numbers are exact; the others are doubles, NaN and the infinities included.
The names in one object are distinct. -/
inductive Json
  | null
  | bool (b : Bool)
  | integer (n : Int)
  | double (d : Double)
  | string (t : Text)
  | array (items : List Json)
  | object (members : List (Text × Json))

/-- The value of a member; nothing for what is not an object. -/
def Json.member? (name : Text) : Json → Option Json
  | .object members => members.lookup name
  | _ => none

end CloudDetector
