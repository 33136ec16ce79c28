import CloudDetector.Proofs.TryCourse
import Mathlib.Data.ENat.Lattice

namespace CloudDetector.Query
open Trace

/-- Where the first result stands that another try would not mend; at infinity if there is none. -/
noncomputable def firstSettled (results : Nat → Except Fault Outcome) : ℕ∞ :=
  ⨅ (i : Nat) (_ : retryReason? (results i) = none), (i : ℕ∞)

theorem first_settled_le {results : Nat → Except Fault Outcome} {n : Nat}
    (h : retryReason? (results n) = none) : firstSettled results ≤ n :=
  iInf₂_le n h

theorem le_first_settled {results : Nat → Except Fault Outcome} {n : Nat}
    (h : ∀ i < n, ∃ reason, retryReason? (results i) = some reason) :
    (n : ℕ∞) ≤ firstSettled results := by
  refine le_iInf₂ ?_
  intro i hi
  apply Nat.cast_le.mpr
  by_contra hlt
  obtain ⟨reason, hr⟩ := h i (Nat.lt_of_not_le hlt)
  rw [hi] at hr
  cases hr

/-- As long as delays are left, each question uses up one. -/
theorem asked_backoff {delays : List Delay} {position i : Nat}
    (h : i ≤ delays.length - position) :
    (Policy.backoff delays position).asked i = .backoff delays (position + i) := by
  induction i with
  | zero => rfl
  | succ i ih =>
    rw [Policy.asked_succ, ih (by omega), Policy.ask,
      List.getElem?_eq_getElem (show position + i < delays.length by omega)]
    rfl

theorem verdict_backoff {delays : List Delay} {position i : Nat}
    (h : position + i < delays.length) :
    (Policy.backoff delays position).verdict i = .again (some delays[position + i]) := by
  rw [Policy.verdict, asked_backoff (by omega), Policy.ask, List.getElem?_eq_getElem h]

/-- Once the delays are used up the policy stops, and asking it changes nothing. -/
theorem ask_backoff_spent (delays : List Delay) (position : Nat) :
    ((Policy.backoff delays position).asked (delays.length - position)).ask =
      (.stop, .backoff delays (position + (delays.length - position))) := by
  rw [asked_backoff (Nat.le_refl _), Policy.ask, List.getElem?_eq_none (by omega)]

section Course

variable {url : Text} {delays : List Delay} {position : Nat} {host : Host} {n : Nat}
  {tried : Attempts}

theorem Course.within_budget (h : Course url (.backoff delays position) host n tried) :
    n ≤ delays.length - position := by
  by_contra hlt
  obtain ⟨delay, hd⟩ := h.granted _ (Nat.lt_of_not_le hlt)
  rw [Policy.verdict, ask_backoff_spent] at hd
  cases hd

/-- A policy that did not grant another try had no delay left. -/
theorem Course.spent_of_refused (h : Course url (.backoff delays position) host n tried)
    (hr : ∀ delay, (Policy.backoff delays position).verdict n ≠ .again delay) :
    n = delays.length - position := by
  have hn := h.within_budget
  by_contra hne
  exact hr _ (verdict_backoff (show position + n < delays.length by omega))

/-- The last result stands, and the question that ends the attempts uses up no delay. -/
theorem Course.backoff_ending (h : Course url (.backoff delays position) host n tried) :
    tried.result = host.result n ∧ tried.policy = .backoff delays (position + n) ∧
      (retryReason? (host.result n) = none ∨ n = delays.length - position) := by
  cases h.ending with
  | settled last result left =>
    exact ⟨result, left.trans (asked_backoff h.within_budget), .inl last⟩
  | stopped reason last verdict result left =>
    have hn := h.spent_of_refused (by intro delay; rw [verdict]; nofun)
    refine ⟨result, ?_, .inr hn⟩
    rw [left, Policy.asked_succ, hn, ask_backoff_spent]
  | raised reason fault last verdict =>
    have hn := h.spent_of_refused (by intro delay; rw [verdict]; nofun)
    rw [Policy.verdict, hn, ask_backoff_spent] at verdict
    cases verdict

/-- How often the first try is followed by another: as often as tries fail in a row, while delays
are left. -/
theorem Course.retries_eq (h : Course url (.backoff delays position) host n tried) :
    (n : ℕ∞) = min (firstSettled host.result) ((delays.length - position : Nat) : ℕ∞) := by
  have hfirst := le_first_settled h.failed
  have hbudget : (n : ℕ∞) ≤ ((delays.length - position : Nat) : ℕ∞) :=
    Nat.cast_le.mpr h.within_budget
  rcases h.backoff_ending.2.2 with last | hn
  · rw [le_antisymm (first_settled_le last) hfirst, min_eq_left hbudget]
  · rw [← hn, min_eq_right hfirst]

/-- The delays granted one after another are those that stand next in the list. -/
theorem Course.delays_granted (h : Course url (.backoff delays position) host n tried) :
    (List.range n).map (fun i => ((Policy.backoff delays position).verdict i).delay?) =
      ((delays.drop position).take n).map some := by
  have hn := h.within_budget
  apply List.ext_getElem
  · simp only [List.length_map, List.length_range, List.length_take, List.length_drop]
    omega
  · intro i hi _
    have hin : i < n := by simpa using hi
    have hlt : position + i < delays.length := by omega
    simp only [List.getElem_map, List.getElem_range, List.getElem_take, List.getElem_drop,
      verdict_backoff hlt]
    rfl

theorem Course.flatMap_granted (h : Course url (.backoff delays position) host n tried)
    {α : Type} (f : Option Delay → List α) :
    (List.range n).flatMap (fun i => f ((Policy.backoff delays position).verdict i).delay?) =
      ((delays.drop position).take n).flatMap (fun d => f (some d)) := by
  have hmap := congrArg (List.flatMap f) h.delays_granted
  simpa only [List.flatMap_map] using hmap

end Course

/-- What attempts under a list of delays come to, said of the stream of results alone. The delays
before `position` were used up earlier. -/
structure BackoffReference (url : Text) (delays : List Delay) (position : Nat) (host : Host)
    (tried : Attempts) (retries : Nat) : Prop where
  retries_eq :
    (retries : ℕ∞) = min (firstSettled host.result) ((delays.length - position : Nat) : ℕ∞)
  sent : requests tried.events = List.replicate (retries + 1) (request url)
  result : tried.result = host.result retries
  waited : Trace.delays tried.events = (delays.drop position).take retries
  /-- Each delay stands between two requests. -/
  paced : pace tried.events =
    ((delays.drop position).take retries).flatMap (fun d => [.get (request url), .wait d]) ++
      [.get (request url)]
  left : tried.policy = .backoff delays (position + retries)
  told : records tried.events = (List.range (retries + 1)).flatMap (fun i =>
    (host.judgement i).records ++ (retryReason? (host.result i)).toList.map requestFailed)
  /-- One record of its own for each failure met, with the reason. -/
  toldOwn : (records tried.events).filter (·.logger = .retrying) =
    ((List.range (retries + 1)).filterMap (fun i => retryReason? (host.result i))).map
      requestFailed

/-- The bare policy cannot be asked, so there is one request. -/
structure BareReference (url : Text) (host : Host) (tried : Attempts) : Prop where
  sent : requests tried.events = [request url]
  waited : Trace.delays tried.events = []
  undecided : ∀ reason, host.result 0 = .ok (.retryable reason) → tried.result = .error .undecided
  settled : retryReason? (host.result 0) = none → tried.result = host.result 0
  told : (records tried.events).filter (·.logger = .retrying) =
    (retryReason? (host.result 0)).toList.map requestFailed

theorem Course.backoff_reference {url : Text} {delays : List Delay} {position : Nat} {host : Host}
    {n : Nat} {tried : Attempts} (h : Course url (.backoff delays position) host n tried) :
    BackoffReference url delays position host tried n where
  retries_eq := h.retries_eq
  sent := h.requests
  result := h.backoff_ending.1
  waited := by
    have hg := h.flatMap_granted Option.toList
    rw [h.delays, hg]
    simp only [Option.toList_some, List.flatMap_singleton']
  paced := by
    have hg := h.flatMap_granted (fun d => Action.get (request url) :: d.toList.map Action.wait)
    rw [h.pace, hg]
    rfl
  left := h.backoff_ending.2.1
  told := h.records
  toldOwn := h.retry_records

/-- The first tries, within the budget, failed, and the one after them raised. -/
def RaisesWithin (host : Host) (budget : Nat) (fault : Fault) : Prop :=
  ∃ n ≤ budget, (∀ i < n, ∃ reason, host.result i = .ok (.retryable reason)) ∧
    host.result n = .error fault

theorem attempts_backoff_raises {url : Text} {delays : List Delay} {position : Nat} {host : Host}
    {fault : Fault} : (attempts url (.backoff delays position) host).result = .error fault ↔
      RaisesWithin host (delays.length - position) fault := by
  obtain ⟨m, hc⟩ := attempts_course url (.backoff delays position) host
  rw [hc.backoff_ending.1]
  constructor
  · intro hr
    refine ⟨m, hc.within_budget, ?_, hr⟩
    intro i hi
    obtain ⟨reason, hreason⟩ := hc.failed i hi
    exact ⟨reason, retry_reason_eq_some hreason⟩
  · intro h
    obtain ⟨n, hn, hfailed, hr⟩ := h
    have hsettled : retryReason? (host.result n) = none := by rw [hr]; rfl
    have hfirst : firstSettled host.result = n := by
      apply le_antisymm (first_settled_le hsettled)
      apply le_first_settled
      intro i hi
      obtain ⟨reason, hreason⟩ := hfailed i hi
      exact ⟨reason, by rw [hreason]; rfl⟩
    have hm : (m : ℕ∞) = n := by
      rw [hc.retries_eq, hfirst, min_eq_left (Nat.cast_le.mpr hn)]
    rw [Nat.cast_inj.mp hm, hr]

/-- The bare policy raises at its first question. -/
theorem Course.undecided_ending {url : Text} {host : Host} {n : Nat} {tried : Attempts}
    (h : Course url .undecided host n tried) : n = 0 := by
  by_contra hn
  obtain ⟨delay, hd⟩ := h.granted 0 (Nat.pos_of_ne_zero hn)
  cases hd

theorem attempts_bare (url : Text) (host : Host) :
    BareReference url host (attempts url .undecided host) := by
  obtain ⟨n, hc⟩ := attempts_course url .undecided host
  have hn := hc.undecided_ending
  subst n
  refine ⟨hc.requests, hc.delays, ?_, attempts_settled, ?_⟩
  · intro reason hr
    cases hc.ending with
    | settled last =>
      rw [hr] at last
      cases last
    | stopped reason' last verdict => cases verdict
    | raised reason' fault last verdict result =>
      cases verdict
      exact result
  · rw [hc.retry_records]
    cases h : retryReason? (host.result 0) <;> simp [h]

/-- Attempts under a list of delays agree with the reference, from every place in the list and for
every stream of replies; so they end. Those under the bare policy end at once. -/
theorem attempts_match_reference (url : Text) (host : Host) :
    (∀ delays position, ∃ retries, BackoffReference url delays position host
      (attempts url (.backoff delays position) host) retries) ∧
    BareReference url host (attempts url .undecided host) := by
  refine ⟨?_, attempts_bare url host⟩
  intro delays position
  obtain ⟨n, hc⟩ := attempts_course url (.backoff delays position) host
  exact ⟨n, hc.backoff_reference⟩

end CloudDetector.Query
