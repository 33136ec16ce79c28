import CloudDetector.Context
import CloudDetector.Double
import CloudDetector.Http.Exchange
import CloudDetector.Log

namespace CloudDetector

/-- A pause in seconds. Less than zero and no number at all can be asked for: the sleeper is taken to
come back, though one that keeps to the clock refuses such a pause. -/
inductive Delay
  | integer (n : Int)
  | double (d : Double)
deriving DecidableEq

def Delay.seconds (n : Nat) : Delay := integer n

/-- What can be seen from outside. -/
inductive Action
  | get (request : Http.Request)
  /-- A policy is handed out for one detection. -/
  | takePolicy
  /-- A policy is asked whether to try again. -/
  | consult
  | wait (delay : Delay)
  | log (record : Log.Record)
deriving DecidableEq

/-- An action and the context in force when it is done. -/
structure Event where
  context : Context
  action : Action

/-- What the process around a detector holds: the context in force and the server. -/
structure Host where
  context : Context
  server : Http.Server

namespace Host

def event (h : Host) (a : Action) : Event := ⟨h.context, a⟩

/-- Puts a context in force and gives back the one that was. -/
def attach (h : Host) (c : Context) : Context × Host := (h.context, { h with context := c })

def detach (h : Host) (previous : Context) : Host := { h with context := previous }

/-- One exchange with the server. -/
def get (h : Host) (request : Http.Request) : Http.Reply × Event × Host :=
  let (reply, server) := h.server.next
  (reply, h.event (.get request), { h with server := server })

end Host

end CloudDetector
