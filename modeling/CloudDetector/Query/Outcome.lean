import CloudDetector.Json.Basic
import CloudDetector.Text.Decimal

namespace CloudDetector

/-- Why a request brought no document. -/
inductive Reason
  | status (code : Int)
  | headers
  | payload
  | transport (name text : Text)
deriving DecidableEq

/-- A status is a reason only where it is short enough to be written. -/
def Reason.text : Reason → Text
  | status code => "HTTP code=" ++ Decimal.ofInt code
  | headers => "response headers do not match expectations"
  | payload => "returned payload does not match expectation."
  | transport name text => name ++ ": " ++ text

inductive Outcome
  | success (document : Json)
  /-- Another try may bring the document. -/
  | retryable (reason : Reason)
  | fatal (reason : Reason)

end CloudDetector
