import CloudDetector.Host

namespace CloudDetector.Query

inductive Verdict
  | again (delay : Option Delay)
  | stop
  | raise (fault : Fault)
deriving DecidableEq

/-- Decides whether a failed request is tried again. -/
inductive Policy
  /-- One delay before each further try, until they are used up. -/
  | backoff (delays : List Delay) (position : Nat)
  /-- Verdicts given in advance; after the last it stops. -/
  | scripted (verdicts : List Verdict)
  /-- The bare notion of a policy. It cannot be asked. -/
  | undecided
deriving DecidableEq

namespace Policy

def ofDelays (delays : List Delay) : Policy := backoff delays 0

/-- Waits one second, then two, then four. -/
def standard : Policy := ofDelays [.seconds 1, .seconds 2, .seconds 4]

/-- Tries again at once, so many times. -/
def immediate (n : Nat) : Policy := scripted (List.replicate n (.again none))

/-- The verdict on one failed request, and the policy for the next. A delay that is granted is slept:
no sleeper raises anything here. -/
def ask : Policy → Verdict × Policy
  | backoff delays position =>
    match delays[position]? with
    | some delay => (.again (some delay), backoff delays (position + 1))
    | none => (.stop, backoff delays position)
  | scripted [] => (.stop, scripted [])
  | scripted (v :: vs) => (v, scripted vs)
  | undecided => (.raise .undecided, undecided)

/-- No more tries than this are granted. -/
def remaining : Policy → Nat
  | backoff delays position => delays.length - position
  | scripted verdicts => verdicts.length
  | undecided => 0

theorem remaining_ask {p next : Policy} {delay : Option Delay}
    (h : p.ask = (.again delay, next)) : next.remaining < p.remaining := by
  cases p with
  | backoff delays position =>
    simp only [ask] at h
    split at h
    · rename_i hd
      obtain ⟨hlt, _⟩ := List.getElem?_eq_some_iff.mp hd
      cases h
      simp only [remaining]
      omega
    · cases h
  | scripted verdicts =>
    cases verdicts with
    | nil => cases h
    | cons v vs =>
      cases h
      exact Nat.lt_succ_self _
  | undecided => cases h

end Policy

end CloudDetector.Query
