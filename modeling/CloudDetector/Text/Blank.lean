import CloudDetector.Text.Segment
import CloudDetector.Text.Span

namespace CloudDetector

/-- White space: the separators, the line and page controls, and the four information separators. -/
def blanks : Spans :=
  [⟨0x09, 0x0D⟩, ⟨0x1C, 0x20⟩, ⟨0x85, 0x85⟩, ⟨0xA0, 0xA0⟩, ⟨0x1680, 0x1680⟩, ⟨0x2000, 0x200A⟩,
    ⟨0x2028, 0x2029⟩, ⟨0x202F, 0x202F⟩, ⟨0x205F, 0x205F⟩, ⟨0x3000, 0x3000⟩]

def CodePoint.isBlank (c : CodePoint) : Bool := blanks.contains c

def Text.trim (t : Text) : Text := t.stripWhile CodePoint.isBlank

end CloudDetector
