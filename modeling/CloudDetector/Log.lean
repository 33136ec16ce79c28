import CloudDetector.Fault
import CloudDetector.Query.Outcome

namespace CloudDetector.Log

inductive Level
  | debug
  | info
  | warning
deriving DecidableEq

/-- Who speaks. A detector has the common logger or one of its own. -/
inductive Logger
  | fetching
  | retrying
  | detecting
  | own (name : Text)
deriving DecidableEq

inductive Message
  | undecodable
  | requestFailed (reason : Reason)
  | unavailable (reason : Reason)
  | detectionFailed (fault : Fault)
deriving DecidableEq

def Message.text : Message → Text
  | undecodable => "Error in decoding metadata response"
  | requestFailed reason => "Metadata request failed: " ++ reason.text
  | unavailable reason => "Could not query the metadata server. status=" ++ reason.text
  | detectionFailed fault => "GoogleCloudResourceDetector failed: " ++ fault.text

structure Record where
  logger : Logger
  level : Level
  message : Message
deriving DecidableEq

end CloudDetector.Log
