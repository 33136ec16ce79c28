import CloudDetector.Proofs.DecimalText
import CloudDetector.Query.Judgement

namespace CloudDetector.Query

/-- The headers that a metadata server sends. -/
def metadataHeaders : Http.Headers :=
  .ofFields [⟨"Content-Type", "application/json"⟩, ⟨"Metadata-Flavor", "Google"⟩]

def metadataReply (body : List UInt8) : Http.Reply := .response ⟨200, metadataHeaders, body⟩

/-- The status tells no failure exactly if it is one of success. -/
theorem status_failure_eq_none (status : Int) :
    statusFailure? status = none ↔ 200 ≤ status ∧ status < 300 := by
  by_cases h : 200 ≤ status ∧ status < 300
  · rw [statusFailure?, if_pos h]
    exact iff_of_true rfl h
  · rw [statusFailure?, if_neg h]
    split <;> simp [h]

/-- Only a status far from every one of success is too long to be written. -/
theorem fits_of_status {status : Int} (h : 0 ≤ status ∧ status < 500) : Decimal.Fits status := by
  have hshort : 10 ^ 3 ≤ 10 ^ Decimal.maxDigits := Nat.pow_le_pow_right (by decide) (by decide)
  rw [Decimal.fits_iff]
  omega

/-- A response passes every check up to its body. -/
def ReachesBody (r : Http.Response) : Prop :=
  (200 ≤ r.status ∧ r.status < 300) ∧ validHeaders r.headers.fields = true

/-- Only then does the body get read. -/
theorem judge_of_reached {r : Http.Response} (h : ReachesBody r) :
    judge (.response r) = judgeRead (bodyRead r) := by
  obtain ⟨hs, hv⟩ := h
  simp only [judge, judgeResponse, (status_failure_eq_none r.status).mpr hs, hv, if_pos]

/-- A document of the expected shape: an object with a project, whatever the project is. -/
def HasProject (document : Json) : Prop :=
  ∃ members value, document = .object members ∧ (projectKey, value) ∈ members

theorem has_project_iff (document : Json) :
    HasProject document ↔ (document.member? projectKey).isSome := by
  cases document with
  | object members =>
    simp only [HasProject, Json.member?, List.lookup_isSome_iff, beq_iff_eq, Json.object.injEq,
      Prod.exists]
    constructor
    · rintro ⟨_, value, rfl, hm⟩
      exact ⟨_, value, hm, rfl⟩
    · rintro ⟨_, value, hm, rfl⟩
      exact ⟨_, value, rfl, hm⟩
  | null | bool b | integer n | double d | string t | array items =>
    simp [HasProject, Json.member?]

theorem judge_document_fit {document : Json} (h : HasProject document) :
    judgeDocument document = .success document := by
  obtain ⟨project, hp⟩ := Option.isSome_iff_exists.mp ((has_project_iff document).mp h)
  rw [judgeDocument, hp]

theorem judge_document_unfit {document : Json} (h : ¬HasProject document) :
    judgeDocument document = .retryable .payload := by
  have hp : document.member? projectKey = none := by
    rw [has_project_iff, Bool.not_eq_true, Option.isSome_eq_false_iff] at h
    exact Option.isNone_iff_eq_none.mp h
  rw [judgeDocument, hp]

/-- How a reply gets judged: the first check that it fails decides. -/
inductive Judged : Http.Reply → Judgement → Prop
  | failed (name text : Text) :
      Judged (.failed name text) ⟨.ok (.fatal (.transport name text)), []⟩
  | broken (fault : Fault) : Judged (.broken fault) ⟨.error fault, []⟩
  | overlong {r : Http.Response} (long : ¬Decimal.Fits r.status) :
      Judged (.response r) ⟨.error overlong, []⟩
  | passing {r : Http.Response} (fits : Decimal.Fits r.status)
      (status : r.status < 200 ∨ r.status = 429 ∨ 500 ≤ r.status) :
      Judged (.response r) ⟨.ok (.retryable (.status r.status)), []⟩
  | lasting {r : Http.Response} (status : 300 ≤ r.status ∧ r.status < 500 ∧ r.status ≠ 429) :
      Judged (.response r) ⟨.ok (.fatal (.status r.status)), []⟩
  | headers {r : Http.Response} (status : 200 ≤ r.status ∧ r.status < 300)
      (invalid : ¬validHeaders r.headers.fields = true) :
      Judged (.response r) ⟨.ok (.retryable .headers), []⟩
  | malformed {r : Http.Response} (reached : ReachesBody r)
      (read : bodyRead r = .error .malformed) :
      Judged (.response r) ⟨.ok (.retryable .payload), [undecodable]⟩
  | tooDeep {r : Http.Response} {k : Json.Container} (reached : ReachesBody r)
      (read : bodyRead r = .error (.tooDeep k)) : Judged (.response r) ⟨.error (.tooDeep k), []⟩
  | unfit {r : Http.Response} {document : Json} (reached : ReachesBody r)
      (read : bodyRead r = .ok document) (shape : ¬HasProject document) :
      Judged (.response r) ⟨.ok (.retryable .payload), []⟩
  | fit {r : Http.Response} {document : Json} (reached : ReachesBody r)
      (read : bodyRead r = .ok document) (shape : HasProject document) :
      Judged (.response r) ⟨.ok (.success document), []⟩

/-- Nothing is left undecided. -/
theorem Judged.total (reply : Http.Reply) : ∃ judgement, Judged reply judgement := by
  cases reply with
  | failed name text => exact ⟨_, .failed name text⟩
  | broken fault => exact ⟨_, .broken fault⟩
  | response r =>
    by_cases hs : 200 ≤ r.status ∧ r.status < 300
    · by_cases hv : validHeaders r.headers.fields = true
      · cases hr : bodyRead r with
        | error e =>
          cases e with
          | malformed => exact ⟨_, .malformed ⟨hs, hv⟩ hr⟩
          | tooDeep k => exact ⟨_, .tooDeep ⟨hs, hv⟩ hr⟩
        | ok document =>
          by_cases hp : HasProject document
          · exact ⟨_, .fit ⟨hs, hv⟩ hr hp⟩
          · exact ⟨_, .unfit ⟨hs, hv⟩ hr hp⟩
      · exact ⟨_, .headers hs hv⟩
    · by_cases hp : r.status < 200 ∨ r.status = 429 ∨ 500 ≤ r.status
      · by_cases hf : Decimal.Fits r.status
        · exact ⟨_, .passing hf hp⟩
        · exact ⟨_, .overlong hf⟩
      · exact ⟨_, .lasting (by omega)⟩

theorem Judged.judge_eq {reply : Http.Reply} {judgement : Judgement}
    (h : Judged reply judgement) : judge reply = judgement := by
  cases h with
  | failed name text | broken fault => rfl
  | @overlong r long =>
    cases hs : statusFailure? r.status with
    | none =>
      have hsuccess := (status_failure_eq_none r.status).mp hs
      exact absurd (fits_of_status ⟨by omega, by omega⟩) long
    | some outcome => simp only [judge, judgeResponse, hs, judgeStatus, if_neg long]
  | @passing r fits status =>
    have hs : ¬(200 ≤ r.status ∧ r.status < 300) := by omega
    simp only [judge, judgeResponse, statusFailure?, if_neg hs, if_pos status, judgeStatus,
      if_pos fits]
  | @lasting r status =>
    have hs : ¬(200 ≤ r.status ∧ r.status < 300) := by omega
    have hp : ¬(r.status < 200 ∨ r.status = 429 ∨ 500 ≤ r.status) := by omega
    have hf : Decimal.Fits r.status := fits_of_status ⟨by omega, by omega⟩
    simp only [judge, judgeResponse, statusFailure?, if_neg hs, if_neg hp, judgeStatus, if_pos hf]
  | headers status invalid =>
    simp only [judge, judgeResponse, (status_failure_eq_none _).mpr status, if_neg invalid]
  | malformed reached read | tooDeep reached read =>
    rw [judge_of_reached reached, read]
    rfl
  | unfit reached read shape =>
    rw [judge_of_reached reached, read, judgeRead, judge_document_unfit shape]
  | fit reached read shape =>
    rw [judge_of_reached reached, read, judgeRead, judge_document_fit shape]

theorem judge_judged (reply : Http.Reply) : Judged reply (judge reply) := by
  obtain ⟨judgement, h⟩ := Judged.total reply
  rw [h.judge_eq]
  exact h

/-- A result comes about only as one of the checks, or the last of them, gives it. -/
theorem judged_of_result {reply : Http.Reply} {result : Except Fault Outcome}
    (h : (judge reply).result = result) : ∃ records, Judged reply ⟨result, records⟩ := by
  subst h
  exact ⟨_, judge_judged reply⟩

theorem metadata_headers_valid : validHeaders metadataHeaders.fields = true := by decide

/-- A metadata server's bodies are UTF-8. -/
theorem metadata_charset : (metadataHeaders.contentType?.bind Encoding.Charset.declared?).bind
    Encoding.Charset.named? = some .utf8 := by decide

/-- A body that is declared in a known charset is read as the charset has it. -/
theorem bodyRead_declared {r : Http.Response} {charset : Encoding.Charset}
    (h : (r.headers.contentType?.bind Encoding.Charset.declared?).bind Encoding.Charset.named? =
      some charset) :
    bodyRead r = Json.read (charset.decode r.body.bytes) r.body.room := by
  have htext : r.text? = some (Text.ofChars (charset.decode r.body.bytes)) := by
    obtain ⟨name, hdeclared, hnamed⟩ := Option.bind_eq_some_iff.mp h
    unfold Http.Response.text? Encoding.bodyText
    split
    · rename_i hempty
      rw [List.isEmpty_iff.mp hempty, Encoding.Charset.decode_nil]
      rfl
    · rw [hdeclared]
      simp only [hnamed]
  rw [bodyRead, htext]
  rfl

end CloudDetector.Query
