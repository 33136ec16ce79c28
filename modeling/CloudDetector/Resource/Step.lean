import CloudDetector.Resource.Service

namespace CloudDetector.Resource

/-- One use of a builder. -/
inductive Step
  | set (key value : Text)
  | setVariable (key name : Text)
  | setMetadata (key : Text) (path : Path)
  | hasVariable (name : Text)
  | metadata (path : Path)
  /-- Takes a copy of the attributes and changes it in any way. -/
  | changeCopy (change : Attributes → Attributes)
  | setZoneAndRegion
  | describe (service : Service)

/-- Takes a copy of the attributes and stores a pair in it, an empty value too. -/
def Step.setOnCopy (key value : Text) : Step := changeCopy (fun copy => copy.put key value)

inductive Answer
  | none
  | flag (b : Bool)
  | text (t : Text)
  | copy (attributes : Attributes)

def Builder.apply (b : Builder) : Step → Answer × Builder
  | .set key value => (.none, b.set key value)
  | .setVariable key name => (.none, b.setVariable key name)
  | .setMetadata key path => (.none, b.setMetadata key path)
  | .hasVariable name => (.flag (b.hasVariable name), b)
  | .metadata path => (.text (b.metadata path), b)
  | .changeCopy change => (.copy (change b.attributes), b)
  | .setZoneAndRegion => (.none, b.setZoneAndRegion)
  | .describe service => (.none, b.describe service)

/-- Each step's answer with the attributes after it. -/
def Builder.run (b : Builder) : List Step → List (Answer × Attributes)
  | [] => []
  | s :: steps =>
    let (answer, b) := b.apply s
    (answer, b.attributes) :: b.run steps

/-- The builder that the steps leave. -/
def Builder.after (b : Builder) : List Step → Builder
  | [] => b
  | s :: steps => (b.apply s).2.after steps

theorem Builder.after_append (b : Builder) (before later : List Step) :
    b.after (before ++ later) = (b.after before).after later := by
  induction before generalizing b with
  | nil => rfl
  | cons s steps ih => exact ih (b.apply s).2

theorem Builder.run_append (b : Builder) (before later : List Step) :
    b.run (before ++ later) = b.run before ++ (b.after before).run later := by
  induction before generalizing b with
  | nil => rfl
  | cons s steps ih => exact congrArg (((b.apply s).1, (b.apply s).2.attributes) :: ·) (ih _)

theorem Builder.length_run (b : Builder) (steps : List Step) :
    (b.run steps).length = steps.length := by
  induction steps generalizing b with
  | nil => rfl
  | cons s steps ih => exact congrArg (· + 1) (ih (b.apply s).2)

end CloudDetector.Resource
