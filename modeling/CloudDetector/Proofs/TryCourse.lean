import CloudDetector.Proofs.MetadataReply
import CloudDetector.Proofs.Trace
import CloudDetector.Query.Attempts
import Mathlib.Data.List.Basic

namespace CloudDetector

namespace Host

/-- How the reply will be judged that comes `i` replies from now. -/
def judgement (h : Host) (i : Nat) : Query.Judgement :=
  Query.judge (h.server.reply (h.server.served + i))

def result (h : Host) (i : Nat) : Except Fault Outcome := (h.judgement i).result

/-- The host after `n` replies more. -/
def answered (h : Host) (n : Nat) : Host :=
  { h with server := { h.server with served := h.server.served + n } }

/-- What the last of the requests came to, of those that the host was about to be sent. -/
def lastResult (h : Host) (events : List Event) : Except Fault Outcome :=
  h.result ((Trace.requests events).length - 1)

theorem judgement_answered (h : Host) (n i : Nat) :
    (h.answered n).judgement i = h.judgement (n + i) := by
  simp only [judgement, answered, Nat.add_assoc]

theorem result_answered (h : Host) (n i : Nat) : (h.answered n).result i = h.result (n + i) :=
  congrArg Query.Judgement.result (h.judgement_answered n i)

theorem answered_answered (h : Host) (m n : Nat) : (h.answered m).answered n = h.answered (m + n) := by
  simp only [answered, Nat.add_assoc]

end Host

namespace Query

/-- The policy after it has been asked `n` times. -/
def Policy.asked (p : Policy) : Nat → Policy
  | 0 => p
  | n + 1 => Policy.asked p.ask.2 n

def Policy.verdict (p : Policy) (i : Nat) : Verdict := (p.asked i).ask.1

theorem Policy.asked_succ (p : Policy) (n : Nat) : p.asked (n + 1) = (p.asked n).ask.2 := by
  induction n generalizing p with
  | zero => rfl
  | succ n ih => exact ih p.ask.2

def Verdict.delay? : Verdict → Option Delay
  | again delay => delay
  | _ => none

/-- A failure that may pass is told and the policy is asked. -/
def refusal (host : Host) (result : Except Fault Outcome) : List Event :=
  (retryReason? result).toList.flatMap (fun reason =>
    [host.event (.log (requestFailed reason)), host.event .consult])

/-- What is seen of one try. -/
def tryEvents (url : Text) (host : Host) (i : Nat) : List Event :=
  ⟨host.context.suppress, .get (request url)⟩ ::
    ((host.judgement i).records.map (fun r => host.event (.log r)) ++ refusal host (host.result i))

def pause (policy : Policy) (host : Host) (i : Nat) : List Event :=
  (policy.verdict i).delay?.toList.map (fun d => host.event (.wait d))

/-- What the last try comes to: it settles the matter, or the policy has had enough, or asking the
policy goes wrong. -/
inductive Ending (policy : Policy) (host : Host) (n : Nat) (tried : Attempts) : Prop
  | settled (last : retryReason? (host.result n) = none)
      (result : tried.result = host.result n) (left : tried.policy = policy.asked n)
  | stopped (reason : Reason) (last : retryReason? (host.result n) = some reason)
      (verdict : policy.verdict n = .stop)
      (result : tried.result = host.result n) (left : tried.policy = policy.asked (n + 1))
  | raised (reason : Reason) (fault : Fault) (last : retryReason? (host.result n) = some reason)
      (verdict : policy.verdict n = .raise fault)
      (result : tried.result = .error fault) (left : tried.policy = policy.asked (n + 1))

/-- All that attempts do when `n` tries are followed by another: this is said of the stream of
replies and of the policy's verdicts, with no recursion left. -/
structure Course (url : Text) (policy : Policy) (host : Host) (n : Nat) (tried : Attempts) :
    Prop where
  failed : ∀ i < n, ∃ reason, retryReason? (host.result i) = some reason
  granted : ∀ i < n, ∃ delay, policy.verdict i = .again delay
  ending : Ending policy host n tried
  events : tried.events =
    (List.range n).flatMap (fun i => tryEvents url host i ++ pause policy host i) ++
      tryEvents url host n
  host : tried.host = host.answered (n + 1)

theorem fetch_eq (url : Text) (host : Host) :
    fetch url host = ⟨host.result 0, ⟨host.context.suppress, .get (request url)⟩ ::
      (host.judgement 0).records.map (fun r => host.event (.log r)), host.answered 1⟩ := rfl

theorem tryEvents_of_settled (url : Text) {host : Host}
    (h : retryReason? (host.result 0) = none) : (fetch url host).events = tryEvents url host 0 := by
  rw [fetch_eq]
  simp only [tryEvents, refusal, h, Option.toList_none, List.flatMap_nil, List.append_nil]

theorem tryEvents_of_failed (url : Text) {host : Host} {reason : Reason}
    (h : retryReason? (host.result 0) = some reason) :
    (fetch url host).events ++ [host.event (.log (requestFailed reason)), host.event .consult] =
      tryEvents url host 0 := by
  rw [fetch_eq]
  simp only [tryEvents, refusal, h, Option.toList_some, List.flatMap_cons, List.flatMap_nil,
    List.append_nil, List.cons_append]

theorem tryEvents_answered (url : Text) (host : Host) (i : Nat) :
    tryEvents url (host.answered 1) i = tryEvents url host (i + 1) := by
  simp only [tryEvents, host.judgement_answered, host.result_answered, Nat.add_comm 1 i]
  rfl

/-- The policy that is left after one question, asked further. -/
theorem asked_next {policy next : Policy} {verdict : Verdict} (h : policy.ask = (verdict, next))
    (i : Nat) : next.asked i = policy.asked (i + 1) := by
  simp only [Policy.asked, h]

theorem verdict_next {policy next : Policy} {verdict : Verdict} (h : policy.ask = (verdict, next))
    (i : Nat) : next.verdict i = policy.verdict (i + 1) := by
  simp only [Policy.verdict, asked_next h]

theorem result_next (host : Host) (i : Nat) : (host.answered 1).result i = host.result (i + 1) := by
  rw [host.result_answered, Nat.add_comm]

/-- A try that settles the matter, or after which no other is granted, is a course by itself. -/
theorem Course.last {url : Text} {policy : Policy} {host : Host} {tried : Attempts}
    (ending : Ending policy host 0 tried) (he : tried.events = tryEvents url host 0)
    (hh : tried.host = host.answered 1) : Course url policy host 0 tried where
  failed i hi := absurd hi (Nat.not_lt_zero i)
  granted i hi := absurd hi (Nat.not_lt_zero i)
  ending := ending
  events := by simpa using he
  host := hh

/-- The ending is the same, one reply later. -/
theorem Ending.later {policy next : Policy} {verdict : Verdict} {host : Host} {n : Nat}
    {rest tried : Attempts} (asked : policy.ask = (verdict, next))
    (h : Ending next (host.answered 1) n rest) (hr : tried.result = rest.result)
    (hp : tried.policy = rest.policy) : Ending policy host (n + 1) tried := by
  cases h with
  | settled last result left =>
    rw [result_next] at last result
    exact .settled last (hr.trans result) (hp.trans (left.trans (asked_next asked n)))
  | stopped reason last verdict result left =>
    rw [result_next] at last result
    rw [verdict_next asked] at verdict
    exact .stopped reason last verdict (hr.trans result)
      (hp.trans (left.trans (asked_next asked (n + 1))))
  | raised reason fault last verdict result left =>
    rw [result_next] at last
    rw [verdict_next asked] at verdict
    exact .raised reason fault last verdict (hr.trans result)
      (hp.trans (left.trans (asked_next asked (n + 1))))

/-- A failed try in front of a course, where the policy grants the rest. -/
theorem Course.later {url : Text} {policy next : Policy} {host : Host} {n : Nat}
    {reason : Reason} {delay : Option Delay} {rest tried : Attempts}
    (failed : retryReason? (host.result 0) = some reason)
    (asked : policy.ask = (.again delay, next)) (h : Course url next (host.answered 1) n rest)
    (hr : tried.result = rest.result) (hp : tried.policy = rest.policy)
    (he : tried.events = tryEvents url host 0 ++ pause policy host 0 ++ rest.events)
    (hh : tried.host = rest.host) : Course url policy host (n + 1) tried := by
  have hpause : ∀ i, pause next (host.answered 1) i = pause policy host (i + 1) := by
    intro i
    simp only [pause, verdict_next asked]
    rfl
  refine ⟨?_, ?_, h.ending.later asked hr hp, ?_, ?_⟩
  · intro i hi
    cases i with
    | zero => exact ⟨reason, failed⟩
    | succ i => exact result_next host i ▸ h.failed i (Nat.lt_of_succ_lt_succ hi)
  · intro i hi
    cases i with
    | zero => exact ⟨delay, congrArg Prod.fst asked⟩
    | succ i => exact verdict_next asked i ▸ h.granted i (Nat.lt_of_succ_lt_succ hi)
  · rw [he, h.events]
    simp only [tryEvents_answered, hpause, List.range_succ_eq_map, List.flatMap_cons,
      List.flatMap_map, List.append_assoc]
  · rw [hh, h.host, host.answered_answered, Nat.add_comm]

/-- Attempts take a course, whatever the policy and the replies. -/
theorem attempts_course (url : Text) (policy : Policy) (host : Host) :
    ∃ n, Course url policy host n (attempts url policy host) := by
  fun_induction attempts url policy host with
  | case1 policy host fetched after settled =>
    exact ⟨0, .last (.settled settled rfl rfl) (tryEvents_of_settled url settled) rfl⟩
  | case2 policy host fetched after reason failed events delay next asked waits rest ih =>
    obtain ⟨n, hc⟩ := ih
    have hpause : pause policy host 0 = waits := by
      simp only [pause, Policy.verdict, Policy.asked, asked]
      rfl
    have hevents : events = tryEvents url host 0 := tryEvents_of_failed url failed
    exact ⟨n + 1, hc.later failed asked rfl rfl (by rw [← hevents, hpause]) rfl⟩
  | case3 policy host fetched after reason failed events next asked =>
    have hp : next = policy.asked 1 := (congrArg Prod.snd asked).symm
    exact ⟨0, .last (.stopped reason failed (congrArg Prod.fst asked) rfl hp)
      (tryEvents_of_failed url failed) rfl⟩
  | case4 policy host fetched after reason failed events fault next asked =>
    have hp : next = policy.asked 1 := (congrArg Prod.snd asked).symm
    exact ⟨0, .last (.raised reason fault failed (congrArg Prod.fst asked) rfl hp)
      (tryEvents_of_failed url failed) rfl⟩

section Seen
open Trace

theorem requests_try (url : Text) (host : Host) (i : Nat) :
    requests (tryEvents url host i) = [request url] := by
  have hr : requests (refusal host (host.result i)) = [] := by
    cases h : retryReason? (host.result i) <;>
      simp [requests, refusal, h, Host.event, Action.request?]
  change request url :: requests (_ ++ refusal host (host.result i)) = _
  rw [requests_append, requests_told, hr, List.append_nil]

theorem delays_try (url : Text) (host : Host) (i : Nat) : delays (tryEvents url host i) = [] := by
  have hr : delays (refusal host (host.result i)) = [] := by
    cases h : retryReason? (host.result i) <;>
      simp [delays, refusal, h, Host.event, Action.delay?]
  change delays (_ ++ refusal host (host.result i)) = _
  rw [delays_append, delays_told, hr, List.append_nil]

/-- The reader of replies tells at most that a body was not to be decoded. -/
theorem judge_records (reply : Http.Reply) :
    (judge reply).records = [] ∨ (judge reply).records = [undecodable] := by
  have hj := judge_judged reply
  generalize judge reply = judgement at hj
  cases hj with
  | malformed => exact .inr rfl
  | _ => exact .inl rfl

/-- What is told of one try: first by the reader of the reply, then by the one who tries again. -/
theorem records_try (url : Text) (host : Host) (i : Nat) :
    records (tryEvents url host i) =
      (host.judgement i).records ++ (retryReason? (host.result i)).toList.map requestFailed := by
  have hr : records (refusal host (host.result i)) =
      (retryReason? (host.result i)).toList.map requestFailed := by
    cases h : retryReason? (host.result i) <;>
      simp [records, refusal, h, Host.event, Action.record?]
  change records (_ ++ refusal host (host.result i)) = _
  rw [records_append, records_told, hr]

theorem pace_try (url : Text) (host : Host) (i : Nat) :
    pace (tryEvents url host i) = [.get (request url)] := by
  have hr : pace (refusal host (host.result i)) = [] := by
    cases h : retryReason? (host.result i) <;>
      simp [pace, refusal, h, Host.event, Action.takesTime, Action.request?, Action.delay?]
  change .get (request url) :: pace (_ ++ refusal host (host.result i)) = _
  rw [pace_append, pace_told, hr, List.append_nil]

theorem requests_pause (policy : Policy) (host : Host) (i : Nat) :
    requests (pause policy host i) = [] := by
  simp [requests, pause, Host.event, Action.request?, List.filterMap_map]

theorem delays_pause (policy : Policy) (host : Host) (i : Nat) :
    delays (pause policy host i) = (policy.verdict i).delay?.toList := by
  simp [delays, pause, Host.event, Action.delay?, List.filterMap_map]

theorem records_pause (policy : Policy) (host : Host) (i : Nat) :
    records (pause policy host i) = [] := by
  simp [records, pause, Host.event, Action.record?, List.filterMap_map]

theorem pace_pause (policy : Policy) (host : Host) (i : Nat) :
    pace (pause policy host i) = (policy.verdict i).delay?.toList.map .wait := by
  cases h : (policy.verdict i).delay? <;>
    simp [pace, pause, h, Host.event, Action.takesTime, Action.request?, Action.delay?]

theorem times_try {a : Action} (hget : a.request? = none) (hlog : a.record? = none) (url : Text)
    (host : Host) (i : Nat) :
    times a (tryEvents url host i) = times a (refusal host (host.result i)) := by
  have hsent : times a [⟨host.context.suppress, .get (request url)⟩] = 0 := by
    apply List.count_eq_zero.mpr
    intro hm
    rw [List.mem_singleton.mp hm] at hget
    cases hget
  rw [tryEvents, ← List.singleton_append, times_append, times_append, hsent, times_told hlog,
    Nat.zero_add, Nat.zero_add]

/-- The policy is asked about each failure that may pass. -/
theorem consults_try (url : Text) (host : Host) (i : Nat) :
    times .consult (tryEvents url host i) = (retryReason? (host.result i)).toList.length := by
  rw [times_try (a := .consult) rfl rfl, refusal]
  cases retryReason? (host.result i) <;> rfl

theorem handouts_try (url : Text) (host : Host) (i : Nat) :
    times .takePolicy (tryEvents url host i) = 0 := by
  rw [times_try (a := .takePolicy) rfl rfl, refusal]
  cases retryReason? (host.result i) <;> rfl

theorem consults_pause (policy : Policy) (host : Host) (i : Nat) :
    times .consult (pause policy host i) = 0 := by
  unfold pause
  cases (policy.verdict i).delay? <;> rfl

theorem handouts_pause (policy : Policy) (host : Host) (i : Nat) :
    times .takePolicy (pause policy host i) = 0 := by
  unfold pause
  cases (policy.verdict i).delay? <;> rfl

variable {url : Text} {policy : Policy} {host : Host} {n : Nat} {tried : Attempts}

theorem Course.requests (h : Course url policy host n tried) :
    Trace.requests tried.events = List.replicate (n + 1) (request url) := by
  have hs : (List.range n).flatMap (fun _ => [request url]) = List.replicate n (request url) := by
    rw [← List.map_eq_flatMap, List.map_const', List.length_range]
  rw [h.events]
  simp only [requests_append, requests_flatMap, requests_try, requests_pause, List.append_nil, hs]
  exact List.replicate_succ'.symm

theorem Course.delays (h : Course url policy host n tried) :
    Trace.delays tried.events =
      (List.range n).flatMap (fun i => (policy.verdict i).delay?.toList) := by
  rw [h.events]
  simp only [delays_append, delays_flatMap, delays_try, delays_pause, List.nil_append,
    List.append_nil]

theorem Course.records (h : Course url policy host n tried) :
    Trace.records tried.events = (List.range (n + 1)).flatMap (fun i =>
      (host.judgement i).records ++ (retryReason? (host.result i)).toList.map requestFailed) := by
  rw [h.events, List.range_succ, List.flatMap_append]
  simp only [records_append, records_flatMap, records_try, records_pause, List.append_nil,
    List.flatMap_singleton]

/-- One record of its own for each failure met, with the reason. -/
theorem Course.retry_records (h : Course url policy host n tried) :
    (Trace.records tried.events).filter (·.logger = .retrying) =
      ((List.range (n + 1)).filterMap (fun i => retryReason? (host.result i))).map
        requestFailed := by
  have hone : ∀ i, ((host.judgement i).records ++
      (retryReason? (host.result i)).toList.map requestFailed).filter (·.logger = .retrying) =
      (retryReason? (host.result i)).toList.map requestFailed := by
    intro i
    have hjudge : (host.judgement i).records.filter (·.logger = .retrying) = [] := by
      rcases judge_records (host.server.reply (host.server.served + i)) with he | he <;>
        simp [Host.judgement, he, undecodable]
    rw [List.filter_append, hjudge, List.nil_append]
    cases retryReason? (host.result i) <;> simp [requestFailed]
  rw [h.records, List.filter_flatMap]
  simp only [hone, List.filterMap_eq_flatMap_toList, List.map_flatMap]

theorem Course.pace (h : Course url policy host n tried) :
    Trace.pace tried.events = (List.range n).flatMap (fun i =>
      .get (request url) :: (policy.verdict i).delay?.toList.map .wait) ++ [.get (request url)] := by
  rw [h.events]
  simp only [pace_append, pace_flatMap, pace_try, pace_pause, List.singleton_append]

/-- The policy that is left was asked as often as is seen. -/
theorem Course.left (h : Course url policy host n tried) :
    tried.policy = policy.asked (times .consult tried.events) := by
  have hone : ∀ i ∈ List.range n,
      times .consult (tryEvents url host i ++ pause policy host i) = 1 := by
    intro i hi
    obtain ⟨reason, hr⟩ := h.failed i (List.mem_range.mp hi)
    rw [times_append, consults_try, consults_pause, hr]
    rfl
  rw [h.events, times_append, times_flatMap hone, List.length_range, Nat.one_mul, consults_try]
  cases h.ending with
  | settled last result left =>
    rw [last]
    exact left
  | stopped reason last verdict result left =>
    rw [last]
    exact left
  | raised reason fault last verdict result left =>
    rw [last]
    exact left

theorem Course.handouts (h : Course url policy host n tried) :
    times .takePolicy tried.events = 0 := by
  have hnone : ∀ i ∈ List.range n,
      times .takePolicy (tryEvents url host i ++ pause policy host i) = 0 := by
    intro i _
    rw [times_append, handouts_try, handouts_pause]
  rw [h.events, times_append, times_flatMap hnone, Nat.zero_mul, handouts_try]

theorem Course.lastResult (h : Course url policy host n tried) :
    host.lastResult tried.events = host.result n := by
  rw [Host.lastResult, h.requests, List.length_replicate, Nat.add_sub_cancel]

/-- Trying again is told to those who debug only. -/
theorem Course.quiet (h : Course url policy host n tried) : loud tried.events = [] := by
  apply List.filter_eq_nil_iff.mpr
  intro r hr
  rw [h.records] at hr
  obtain ⟨i, _, hr⟩ := List.mem_flatMap.mp hr
  rcases List.mem_append.mp hr with hr | hr
  · rcases judge_records (host.server.reply (host.server.served + i)) with he | he
    · simp only [Host.judgement, he, List.not_mem_nil] at hr
    · simp only [Host.judgement, he, List.mem_singleton] at hr
      simp [hr, undecodable]
  · obtain ⟨reason, _, rfl⟩ := List.mem_map.mp hr
    simp [requestFailed]

end Seen

theorem retry_reason_eq_some {result : Except Fault Outcome} {reason : Reason}
    (h : retryReason? result = some reason) : result = .ok (.retryable reason) := by
  unfold retryReason? at h
  split at h
  · cases h
    rfl
  · cases h

/-- Attempts whose first result settles the matter come to it. -/
theorem attempts_settled {url : Text} {policy : Policy} {host : Host}
    (h : retryReason? (host.result 0) = none) :
    (attempts url policy host).result = host.result 0 := by
  obtain ⟨n, hc⟩ := attempts_course url policy host
  cases n with
  | zero =>
    cases hc.ending with
    | settled last result => exact result
    | stopped reason last verdict result => exact result
    | raised reason fault last =>
      rw [h] at last
      cases last
  | succ n =>
    obtain ⟨reason, hr⟩ := hc.failed 0 (Nat.succ_pos n)
    rw [h] at hr
    cases hr

/-- At least one request is sent. -/
theorem attempts_send (url : Text) (policy : Policy) (host : Host) :
    Trace.requests (attempts url policy host).events ≠ [] := by
  obtain ⟨n, hc⟩ := attempts_course url policy host
  rw [hc.requests]
  exact List.cons_ne_nil _ _

theorem attempts_quiet (url : Text) (policy : Policy) (host : Host) :
    Trace.loud (attempts url policy host).events = [] := by
  obtain ⟨n, hc⟩ := attempts_course url policy host
  exact hc.quiet

/-- The last result stands, unless asking the policy about it went wrong. -/
theorem attempts_result (url : Text) (policy : Policy) (host : Host) :
    let tried := attempts url policy host
    tried.result = host.lastResult tried.events ∨
      ∃ reason fault, host.lastResult tried.events = .ok (.retryable reason) ∧
        policy.verdict ((Trace.requests tried.events).length - 1) = .raise fault ∧
        tried.result = .error fault := by
  intro tried
  obtain ⟨n, hc⟩ := attempts_course url policy host
  rw [hc.lastResult]
  cases hc.ending with
  | settled last result => exact .inl result
  | stopped reason last verdict result => exact .inl result
  | raised reason fault last verdict result =>
    refine .inr ⟨reason, fault, retry_reason_eq_some last, ?_, result⟩
    rw [hc.requests, List.length_replicate, Nat.add_sub_cancel, verdict]

/-- An outcome is always that of the last request. -/
theorem attempts_outcome {url : Text} {policy : Policy} {host : Host} {outcome : Outcome}
    (h : (attempts url policy host).result = .ok outcome) :
    host.lastResult (attempts url policy host).events = .ok outcome := by
  rcases attempts_result url policy host with hr | ⟨reason, fault, _, _, hr⟩
  · exact hr.symm.trans h
  · rw [hr] at h
    cases h

end Query

end CloudDetector
