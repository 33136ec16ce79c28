import CloudDetector.Text.Basic

namespace CloudDetector

/-- A run of code points, both ends included. -/
structure Span where
  first : Nat
  last : Nat

def Span.contains (s : Span) (c : CodePoint) : Bool := s.first ≤ c.val && c.val ≤ s.last

/-- A property of code points, as the runs that have it. -/
abbrev Spans := List Span

def Spans.contains (ss : Spans) (c : CodePoint) : Bool := ss.any (·.contains c)

end CloudDetector
