import CloudDetector.Table
import CloudDetector.Text.LetterCase

namespace CloudDetector.Http

structure Field where
  name : Text
  value : Text
deriving DecidableEq

/-- Fields by their names in lower case. -/
abbrev Headers := Table Field

namespace Headers

/-- A later field takes the place of an earlier one whose name differs only in case. -/
def ofFields (fields : List Field) : Headers :=
  fields.foldl (fun h f => h.put f.name.lower f) Table.empty

def fields (h : Headers) : List Field := h.entries.map Prod.snd

def contentType? (h : Headers) : Option Text := (h.get? "content-type").map Field.value

end Headers

end CloudDetector.Http
