import CloudDetector.Detector.Detect

namespace CloudDetector

/-- Detectors by their names, and what they share: the environment and the host. -/
structure World where
  environment : Resource.Environment
  host : Host
  detectors : Table Detector

namespace World

inductive Step
  /-- Takes the place of an earlier detector of that name. -/
  | create (id : Text) (config : Config)
  | setVariable (name value : Text)
  | unsetVariable (name : Text)
  | serve (server : Http.Server)
  | detect (id : Text)

inductive Report
  | done
  | detected (answer : Except Fault Attributes) (events : List Event)
  /-- There is no detector of that name. -/
  | unknown (id : Text)

def step (w : World) : Step → Report × World
  | .create id config => (.done, { w with detectors := w.detectors.put id (.new config) })
  | .setVariable name value => (.done, { w with environment := w.environment.put name value })
  | .unsetVariable name => (.done, { w with environment := w.environment.erase name })
  | .serve server => (.done, { w with host := { w.host with server } })
  | .detect id =>
    match w.detectors.get? id with
    | none => (.unknown id, w)
    | some d =>
      let detection := d.detect w.environment w.host
      (.detected detection.answer detection.events,
        { w with host := detection.host, detectors := w.detectors.put id detection.detector })

/-- What each step reports. -/
def run (w : World) : List Step → List Report
  | [] => []
  | s :: steps => (w.step s).1 :: (w.step s).2.run steps

/-- The world that the steps leave. -/
def after (w : World) : List Step → World
  | [] => w
  | s :: steps => (w.step s).2.after steps

/-- A world in which nothing has been detected yet. -/
def start (environment : Resource.Environment) (host : Host) : World :=
  ⟨environment, host, Table.empty⟩

theorem after_append (w : World) (before later : List Step) :
    w.after (before ++ later) = (w.after before).after later := by
  induction before generalizing w with
  | nil => rfl
  | cons s steps ih => exact ih (w.step s).2

theorem run_append (w : World) (before later : List Step) :
    w.run (before ++ later) = w.run before ++ (w.after before).run later := by
  induction before generalizing w with
  | nil => rfl
  | cons s steps ih => exact congrArg ((w.step s).1 :: ·) (ih (w.step s).2)

theorem length_run (w : World) (steps : List Step) : (w.run steps).length = steps.length := by
  induction steps generalizing w with
  | nil => rfl
  | cons s steps ih => exact congrArg (· + 1) (ih (w.step s).2)

/-- A step reports from the world that the steps before it left. -/
theorem run_report (w : World) (before later : List Step) (s : Step) :
    (w.run (before ++ s :: later))[before.length]? = some ((w.after before).step s).1 := by
  rw [run_append, List.getElem?_append_right (Nat.le_of_eq (length_run w before)), length_run,
    Nat.sub_self]
  rfl

end World

end CloudDetector
