import CloudDetector.Table

namespace CloudDetector

/-- Flags that hold for the work going on. -/
abbrev Context := Table Bool

namespace Context

/-- While this flag is set, requests leave no traces of their own in telemetry. -/
def suppression : Text := "suppress_instrumentation"

def isSuppressed (c : Context) : Bool := (c.get? suppression).getD false

def suppress (c : Context) : Context := c.put suppression true

end Context

end CloudDetector
