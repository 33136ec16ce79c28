import CloudDetector.Json.Basic
import CloudDetector.Text.Decimal

namespace CloudDetector

/-- The names of members, from the root inward. -/
abbrev Path := List Text

namespace Json

/-- Goes inward through objects only. -/
def reach? : Path → Json → Option Json
  | [], v => some v
  | name :: path, v => (v.member? name).bind (reach? path)

/-- The text of a string or a number; the others have none, nor have NaN and the infinities. -/
def scalar : Json → Text
  | .string t => t
  | .integer n => (Decimal.ofInt? n).getD []
  | .double d => (d.truncate?.bind Decimal.ofInt?).getD []
  | _ => []

def lookup (path : Path) (v : Json) : Text := ((v.reach? path).map scalar).getD []

end Json

end CloudDetector
