import CloudDetector.Http.Exchange
import CloudDetector.Text.Segment

namespace CloudDetector.Query

def defaultEndpoint : Text := "http://metadata.google.internal"

/-- Asks for the whole tree at once. -/
def documentPath : Text := "/computeMetadata/v1/?recursive=true"

def url (endpoint : Text) : Text := endpoint.dropTrailing '/' ++ documentPath

def request (url : Text) : Http.Request := ⟨url, [⟨"Metadata-Flavor", "Google"⟩], 5⟩

end CloudDetector.Query
