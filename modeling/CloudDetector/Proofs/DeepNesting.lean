import CloudDetector.Proofs.BackoffBudget
import CloudDetector.Proofs.Detection
import CloudDetector.Proofs.MetadataReply
import CloudDetector.Proofs.NestingDepth

namespace CloudDetector

/-- The server answers, or the transport gives up; nothing else breaks. -/
def Http.Reply.Foreseen : Http.Reply → Prop
  | .broken _ => False
  | _ => True

namespace Query

/-- A response passes every check up to its body, and the body opens too many containers. -/
def NestsTooDeep (r : Http.Response) (k : Json.Container) : Prop :=
  ReachesBody r ∧ bodyRead r = .error (.tooDeep k)

/-- Too many are more than there is room for where the body is read. -/
theorem nests_too_deep_iff {r : Http.Response} {k : Json.Container} :
    NestsTooDeep r k ↔ ReachesBody r ∧
      ∃ text, r.text? = some text ∧ Json.OpensTooDeep r.body.room text k := by
  rw [NestsTooDeep, bodyRead]
  cases r.text? with
  | none => simp
  | some text => simp [Json.read_too_deep]

/-- What makes a try raise of all that a server can answer. -/
inductive Raises (r : Http.Response) : Fault → Prop
  /-- There is no telling what the status means. -/
  | overlong (long : ¬Decimal.Fits r.status) : Raises r overlong
  | tooDeep {k : Json.Container} (deep : NestsTooDeep r k) : Raises r (.tooDeep k)

/-- A fault comes from the transport, or from an answer that makes the try raise. -/
theorem judge_raises {reply : Http.Reply} {fault : Fault} : (judge reply).result = .error fault ↔
    reply = .broken fault ∨ ∃ r, reply = .response r ∧ Raises r fault := by
  constructor
  · intro h
    obtain ⟨_, hj⟩ := judged_of_result h
    cases hj with
    | broken => exact .inl rfl
    | overlong long => exact .inr ⟨_, rfl, .overlong long⟩
    | tooDeep reached read => exact .inr ⟨_, rfl, .tooDeep ⟨reached, read⟩⟩
  · rintro (rfl | ⟨r, rfl, long | ⟨reached, read⟩⟩)
    · rfl
    · rw [(Judged.overlong long).judge_eq]
    · rw [(Judged.tooDeep reached read).judge_eq]

/-- Brackets that a metadata server sends one after another nest too deep, if there are more than
there is room for. -/
theorem brackets_nest_too_deep {n : Nat} {body : Http.Body}
    (hbytes : body.bytes = List.replicate n 0x5B) (h : body.room < n) :
    NestsTooDeep ⟨200, metadataHeaders, body⟩ .array := by
  have hascii : ∀ b ∈ List.replicate n (0x5B : UInt8), b.toNat < 0x80 := by
    intro b hb
    rw [List.eq_of_mem_replicate hb]
    decide
  have hs : (200 : Int) ≤ 200 ∧ (200 : Int) < 300 := by decide
  refine ⟨⟨hs, metadata_headers_valid⟩, ?_⟩
  rw [bodyRead_declared metadata_charset, hbytes, Encoding.Charset.decode,
    Encoding.Utf8.decode_ascii hascii, List.map_replicate]
  exact Json.read_too_deep.mpr (Json.brackets_too_deep h)

/-- Of all that a server can answer, nothing else raises. -/
theorem judge_fault {reply : Http.Reply} (hf : reply.Foreseen) {fault : Fault} :
    (judge reply).result = .error fault ↔ ∃ r, reply = .response r ∧ Raises r fault := by
  have hbroken : ¬reply = .broken fault := by
    rintro rfl
    exact hf
  rw [judge_raises, or_iff_right hbroken]

/-- A body that is no document, for any reason but its nesting, asks for another try. -/
theorem judge_unreadable {r : Http.Response} (hreached : ReachesBody r)
    (hread : ∀ document, bodyRead r ≠ .ok document) (hdeep : ∀ k, ¬NestsTooDeep r k) :
    (judge (.response r)).result = .ok (.retryable .payload) := by
  cases hr : bodyRead r with
  | ok document => exact absurd hr (hread document)
  | error e =>
    cases e with
    | malformed => rw [(Judged.malformed hreached hr).judge_eq]
    | tooDeep k => exact absurd ⟨hreached, hr⟩ (hdeep k)

theorem result_fault {host : Host} (hf : ∀ i, (host.server.reply i).Foreseen) {i : Nat}
    {fault : Fault} : host.result i = .error fault ↔
      ∃ r, host.server.reply (host.server.served + i) = .response r ∧ Raises r fault :=
  judge_fault (hf (host.server.served + i))

end Query

namespace Detector
open Query

/-- Where faults are handed on, a detection raises what its attempts raise. -/
theorem detect_raises {d : Detector} {environment : Resource.Environment} {host : Host}
    {policy : Policy} (hr : d.config.raiseOnError = true) (hs : d.source.take = .ok policy)
    {fault : Fault} : (d.detect environment host).answer = .error fault ↔
      d.cache = none ∧ (attempts d.url policy host).result = .error fault := by
  cases hc : d.cache with
  | some attributes =>
    simp only [detect, hc, reduceCtorEq, false_and]
  | none =>
    simp only [detect, hc, hs, true_and]
    cases ht : (attempts d.url policy host).result with
    | error fault' => simp only [breakOff, hr, if_pos, Except.error.injEq]
    | ok outcome => cases outcome <;> simp only [conclude, reduceCtorEq]

/-- On a server that answers in whatever way, a try raises exactly if the status is too long to be
written or the body that it reads nests too deep; every other body that is no document asks for
another try. Detections under a list of delays that hand faults on raise for these causes alone. -/
theorem only_long_status_or_deep_nesting_raises (host : Host)
    (hf : ∀ i, (host.server.reply i).Foreseen) :
    (∀ url fault, (fetch url host).result = .error fault ↔
      ∃ r, host.server.reply host.server.served = .response r ∧ Raises r fault) ∧
    (∀ r k, NestsTooDeep r k ↔ ReachesBody r ∧
      ∃ text, r.text? = some text ∧ Json.OpensTooDeep r.body.room text k) ∧
    (∀ url r, host.server.reply host.server.served = .response r → ReachesBody r →
      (∀ document, bodyRead r ≠ .ok document) → (∀ k, ¬NestsTooDeep r k) →
      (fetch url host).result = .ok (.retryable .payload)) ∧
    ∀ (d : Detector) environment delays position, d.config.raiseOnError = true →
      d.source.take = .ok (.backoff delays position) →
      ∀ fault, (d.detect environment host).answer = .error fault ↔ d.cache = none ∧
        ∃ n ≤ delays.length - position,
          (∀ i < n, ∃ reason, host.result i = .ok (.retryable reason)) ∧
          ∃ r, host.server.reply (host.server.served + n) = .response r ∧ Raises r fault := by
  refine ⟨?_, fun r k => nests_too_deep_iff, ?_, ?_⟩
  · intro url fault
    exact judge_fault (hf host.server.served)
  · intro url r hreply hreached hread hdeep
    change (judge (host.server.reply host.server.served)).result = _
    rw [hreply]
    exact judge_unreadable hreached hread hdeep
  · intro d environment delays position hr hs fault
    rw [detect_raises hr hs, attempts_backoff_raises, RaisesWithin]
    simp only [result_fault hf]

/-- Five thousand brackets are an answer, and yet the try raises, and so does the detection. -/
theorem five_thousand_brackets_raise :
    let host : Host := ⟨Table.empty, fun _ => metadataReply (List.replicate 5000 0x5B), 0⟩
    (∀ i, (host.server.reply i).Foreseen) ∧
    (fetch (Query.url Query.defaultEndpoint) host).result = .error (.tooDeep .array) ∧
    ((Detector.new { raiseOnError := true }).detect Table.empty host).answer =
      .error (.tooDeep .array) := by
  intro host
  have hf : ∀ i, (host.server.reply i).Foreseen := fun _ => trivial
  let body : Http.Body := .ofBytes (List.replicate 5000 0x5B)
  have hroom : body.room < 5000 := show Json.Reader.usualRoom < 5000 by decide
  have hdeep := brackets_nest_too_deep rfl hroom
  obtain ⟨hfetch, _, _, hdetect⟩ := only_long_status_or_deep_nesting_raises host hf
  refine ⟨hf, ?_, ?_⟩
  · exact (hfetch _ _).mpr ⟨_, rfl, .tooDeep hdeep⟩
  · refine (hdetect _ _ _ _ rfl rfl _).mpr ⟨rfl, 0, Nat.zero_le _, ?_, _, rfl, .tooDeep hdeep⟩
    intro i hi
    exact absurd hi (Nat.not_lt_zero i)

end Detector

end CloudDetector
