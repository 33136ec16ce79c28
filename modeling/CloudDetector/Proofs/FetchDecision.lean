import CloudDetector.Proofs.DeepNesting

namespace CloudDetector.Query

theorem judge_succeeds {reply : Http.Reply} {document : Json} :
    (judge reply).result = .ok (.success document) ↔
      ∃ r, reply = .response r ∧ ReachesBody r ∧ bodyRead r = .ok document ∧
        HasProject document := by
  constructor
  · intro h
    obtain ⟨_, hj⟩ := judged_of_result h
    cases hj with
    | fit reached read shape => exact ⟨_, rfl, reached, read, shape⟩
  · rintro ⟨r, rfl, reached, read, shape⟩
    rw [(Judged.fit reached read shape).judge_eq]

/-- Apart from the request itself a try shows only what its judgement tells. -/
theorem records_fetch (url : Text) (host : Host) :
    Trace.records (fetch url host).events =
      (judge (host.server.reply host.server.served)).records :=
  Trace.records_told host (host.judgement 0).records

/-- A try comes to the judgement of its reply. -/
theorem fetch_of_reply {host : Host} {reply : Http.Reply}
    (h : host.server.reply host.server.served = reply) (url : Text) :
    (fetch url host).result = (judge reply).result ∧
      Trace.records (fetch url host).events = (judge reply).records := by
  rw [records_fetch, ← h]
  exact ⟨rfl, rfl⟩

end CloudDetector.Query
