import CloudDetector.Proofs.FailedDetection

namespace CloudDetector
open Trace

namespace Http.Server

/-- The next replies are these, in this order. -/
def Hands (s : Server) (replies : List Reply) : Prop :=
  ∀ i reply, replies[i]? = some reply → s.reply (s.served + i) = reply

/-- The next `n` replies. -/
def upcoming (s : Server) (n : Nat) : List Reply :=
  (List.range n).map (fun i => s.reply (s.served + i))

theorem upcoming_length (s : Server) (n : Nat) : (s.upcoming n).length = n := by
  simp [upcoming]

theorem reply_of_hands {s s' : Server} {n i : Nat} (h : s'.Hands (s.upcoming n)) (hi : i < n) :
    s'.reply (s'.served + i) = s.reply (s.served + i) := by
  apply h
  simp [upcoming, hi]

/-- One list of replies after another. -/
theorem hands_append {s : Server} {replies more : List Reply} :
    s.Hands (replies ++ more) ↔
      s.Hands replies ∧ Hands { s with served := s.served + replies.length } more := by
  constructor
  · intro h
    refine ⟨?_, ?_⟩
    · intro i reply hi
      obtain ⟨hlt, _⟩ := List.getElem?_eq_some_iff.mp hi
      exact h i reply (by rw [List.getElem?_append_left hlt, hi])
    · intro i reply hi
      have hle : replies.length ≤ replies.length + i := Nat.le_add_right _ _
      have hat := h (replies.length + i) reply
        (by rw [List.getElem?_append_right hle, Nat.add_sub_cancel_left, hi])
      simpa only [Nat.add_assoc] using hat
  · intro h i reply hi
    obtain ⟨hfirst, hmore⟩ := h
    by_cases hlt : i < replies.length
    · rw [List.getElem?_append_left hlt] at hi
      exact hfirst i reply hi
    · have hle : replies.length ≤ i := Nat.le_of_not_lt hlt
      rw [List.getElem?_append_right hle] at hi
      have hat := hmore (i - replies.length) reply hi
      simpa only [Nat.add_assoc, Nat.add_sub_cancel' hle] using hat

end Http.Server

namespace Query

variable {url : Text} {policy : Policy} {host host' : Host} {n m : Nat} {tried tried' : Attempts}

/-- A course is the same on every host that hands the same replies in the same context. -/
theorem Course.elsewhere (h : Course url policy host n tried)
    (hcontext : host'.context = host.context)
    (hreplies : ∀ i ≤ n, host'.judgement i = host.judgement i) :
    Course url policy host' n { tried with host := host'.answered (n + 1) } := by
  have hresult : ∀ i ≤ n, host'.result i = host.result i :=
    fun i hi => congrArg Judgement.result (hreplies i hi)
  have htry : ∀ i ≤ n, tryEvents url host' i = tryEvents url host i := by
    intro i hi
    simp only [tryEvents, refusal, hresult i hi, hreplies i hi, Host.event, hcontext]
  have hpause : ∀ i, pause policy host' i = pause policy host i := by
    intro i
    simp only [pause, Host.event, hcontext]
  refine ⟨?_, h.granted, ?_, ?_, rfl⟩
  · intro i hi
    rw [hresult i (Nat.le_of_lt hi)]
    exact h.failed i hi
  · have hlast := hresult n (Nat.le_refl n)
    cases h.ending with
    | settled last result left =>
      exact .settled (by rw [hlast, last]) (by rw [hlast]; exact result) left
    | stopped reason last verdict result left =>
      exact .stopped reason (by rw [hlast, last]) verdict (by rw [hlast]; exact result) left
    | raised reason fault last verdict result left =>
      exact .raised reason fault (by rw [hlast, last]) verdict result left
  · change tried.events = _
    rw [h.events, htry n (Nat.le_refl n)]
    congr 1
    apply List.flatMap_congr
    intro i hi
    rw [htry i (Nat.le_of_lt (List.mem_range.mp hi)), hpause]

/-- Where one course ends, no other goes on. -/
theorem Course.length_le (h : Course url policy host n tried)
    (h' : Course url policy host m tried') : m ≤ n := by
  by_contra hlt
  obtain ⟨reason, hfailed⟩ := h'.failed n (Nat.lt_of_not_le hlt)
  obtain ⟨delay, hgranted⟩ := h'.granted n (Nat.lt_of_not_le hlt)
  cases h.ending with
  | settled last =>
    rw [hfailed] at last
    cases last
  | stopped reason last verdict =>
    rw [hgranted] at verdict
    cases verdict
  | raised reason fault last verdict =>
    rw [hgranted] at verdict
    cases verdict

theorem Ending.unique (h : Ending policy host n tried) (h' : Ending policy host n tried') :
    tried.result = tried'.result ∧ tried.policy = tried'.policy := by
  cases h with
  | settled last result left =>
    cases h' with
    | settled _ result' left' => exact ⟨result.trans result'.symm, left.trans left'.symm⟩
    | stopped _ last' | raised _ _ last' =>
      rw [last] at last'
      cases last'
  | stopped reason last verdict result left =>
    cases h' with
    | settled last' =>
      rw [last] at last'
      cases last'
    | stopped _ _ _ result' left' => exact ⟨result.trans result'.symm, left.trans left'.symm⟩
    | raised _ _ _ verdict' =>
      rw [verdict] at verdict'
      cases verdict'
  | raised reason fault last verdict result left =>
    cases h' with
    | settled last' =>
      rw [last] at last'
      cases last'
    | stopped _ _ verdict' =>
      rw [verdict] at verdict'
      cases verdict'
    | raised _ _ _ verdict' result' left' =>
      rw [verdict] at verdict'
      cases verdict'
      exact ⟨result.trans result'.symm, left.trans left'.symm⟩

/-- The replies and the verdicts settle all that attempts come to. -/
theorem Course.unique (h : Course url policy host n tried)
    (h' : Course url policy host m tried') : tried = tried' := by
  obtain rfl : n = m := le_antisymm (h'.length_le h) (h.length_le h')
  have hevents := h.events.trans h'.events.symm
  have hhost := h.host.trans h'.host.symm
  obtain ⟨hresult, hpolicy⟩ := h.ending.unique h'.ending
  obtain ⟨result, events, policy', host₁⟩ := tried
  obtain ⟨result', events', policy'', host₂⟩ := tried'
  dsimp only at hevents hhost hresult hpolicy
  rw [hevents, hhost, hresult, hpolicy]

/-- Attempts depend on nothing but the context and the replies that they get. -/
theorem attempts_elsewhere (hcontext : host'.context = host.context)
    (hreplies : host'.server.Hands
      (host.server.upcoming (requests (attempts url policy host).events).length)) :
    attempts url policy host' = { attempts url policy host with
      host := host'.answered (requests (attempts url policy host).events).length } := by
  obtain ⟨n, hcourse⟩ := attempts_course url policy host
  obtain ⟨m, hcourse'⟩ := attempts_course url policy host'
  have hsent : (requests (attempts url policy host).events).length = n + 1 := by
    rw [hcourse.requests, List.length_replicate]
  rw [hsent] at hreplies ⊢
  refine hcourse'.unique (hcourse.elsewhere hcontext ?_)
  intro i hi
  exact congrArg judge (Http.Server.reply_of_hands hreplies (Nat.lt_succ_of_le hi))

end Query

namespace Detector

theorem break_off_elsewhere (d : Detector) (fault : Fault) (events : List Event) {host host' : Host}
    (h : host'.context = host.context) : d.breakOff fault events host' =
      { d.breakOff fault events host with host := host' } := by
  unfold breakOff
  simp only [Host.event, h]
  split <;> rfl

theorem conclude_elsewhere (d : Detector) (environment : Resource.Environment) (outcome : Outcome)
    (events : List Event) {host host' : Host} (h : host'.context = host.context) :
    d.conclude environment outcome events host' =
      { d.conclude environment outcome events host with host := host' } := by
  unfold conclude
  simp only [Host.event, h]
  cases outcome <;> rfl

/-- A detection depends on nothing but the environment, the context and the replies that it gets. -/
theorem detect_elsewhere (d : Detector) (environment : Resource.Environment) {host host' : Host}
    (hcontext : host'.context = host.context)
    (hreplies : host'.server.Hands
      (host.server.upcoming (requests (d.detect environment host).events).length)) :
    d.detect environment host' = { d.detect environment host with
      host := host'.answered (requests (d.detect environment host).events).length } := by
  cases hc : d.cache with
  | some attributes =>
    rw [detect_kept hc, detect_kept hc]
    rfl
  | none =>
    have hevent : host'.event .takePolicy = host.event .takePolicy := by
      simp only [Host.event, hcontext]
    cases hs : d.source.take with
    | error fault =>
      rw [detect_unmade_sends hc hs]
      simp only [detect, hc, hs, hevent]
      exact d.break_off_elsewhere fault _ hcontext
    | ok policy =>
      have made : d.attempts? host = some (Query.attempts d.url policy host) :=
        attempts_of_take hc hs
      rw [detect_made_sends made] at hreplies ⊢
      have hsame := Query.attempts_elsewhere hcontext hreplies
      have hleft : (host'.answered (requests (Query.attempts d.url policy host).events).length).context =
          (Query.attempts d.url policy host).host.context := by
        obtain ⟨n, hcourse⟩ := Query.attempts_course d.url policy host
        rw [hcourse.host]
        exact hcontext
      simp only [detect, hc, hs, hevent, hsame]
      cases (Query.attempts d.url policy host).result with
      | error fault => exact break_off_elsewhere _ fault _ hleft
      | ok outcome => exact conclude_elsewhere _ environment outcome _ hleft

end Detector

end CloudDetector
