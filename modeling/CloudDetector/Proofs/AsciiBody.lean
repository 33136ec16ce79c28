import CloudDetector.Proofs.FetchDecision
import CloudDetector.Proofs.Utf8Encoded

namespace CloudDetector

namespace Encoding

/-- Each byte for a character of its own. -/
def asciiText (bytes : List UInt8) : List Char := bytes.map (fun b => .ofNat b.toNat)

variable {bytes : List UInt8}

/-- The charsets that are known by name have ASCII in common. -/
theorem Charset.decode_ascii (charset : Charset) (h : ∀ b ∈ bytes, IsAsciiByte b) :
    charset.decode bytes = asciiText bytes := by
  cases charset with
  | ascii =>
    apply List.map_congr_left
    intro b hb
    exact if_pos (h b hb).2
  | latin1 => rfl
  | utf8 => exact Utf8.decode_ascii (fun b hb => (h b hb).2)

theorem encode_asciiText (h : ∀ b ∈ bytes, IsAsciiByte b) :
    Utf8.encode (asciiText bytes) = bytes := by
  induction bytes with
  | nil => rfl
  | cons b bytes ih =>
    obtain ⟨hb, hbytes⟩ := List.forall_mem_cons.mp h
    have hchar : Utf8.encodeChar (.ofNat b.toNat) = [b] := Utf8.encodeChar_ascii hb.2
    rw [asciiText, List.map_cons, Utf8.encode, List.flatMap_cons, hchar]
    exact congrArg (b :: ·) (ih hbytes)

/-- No byte order mark is ASCII, and without zeros nothing looks like wide characters. -/
theorem detect?_ascii (h : ∀ b ∈ bytes, IsAsciiByte b) :
    Form.detect? bytes = some (.utf8, bytes) := by
  unfold Form.detect?
  split
  · exact absurd (h 0xFF (by simp)).2 (by decide)
  · exact absurd (h 0 (by simp)).1 (by decide)
  · exact absurd (h 0xEF (by simp)).2 (by decide)
  · exact absurd (h 0xFF (by simp)).2 (by decide)
  · exact absurd (h 0xFE (by simp)).2 (by decide)
  · rename_i a b c d rest _ _ _ _ _
    have hzero : ∀ x ∈ a :: b :: c :: d :: rest, (x == 0) = false := by
      intro x hx
      rw [beq_eq_false_iff_ne]
      rintro rfl
      exact absurd (h 0 hx).1 (by decide)
    simp [Form.byZeros?, hzero a, hzero b, hzero c, hzero d]
  · have hall : bytes.all (IsAsciiByte ·) = true :=
      List.all_eq_true.mpr (fun b hb => decide_eq_true (h b hb))
    exact if_pos hall

end Encoding

namespace Query
open Encoding Http

/-- What a content type may declare: no charset, one that is known by its name, or one that the
client does not know either, which falls back on UTF-8. -/
inductive FamiliarCharset (r : Response) : Prop
  | undeclared (h : r.headers.contentType?.bind Charset.declared? = none)
  | known {charset : Charset}
      (h : (r.headers.contentType?.bind Charset.declared?).bind Charset.named? = some charset)
  | unknown {name : Text} (h : r.headers.contentType?.bind Charset.declared? = some name)
      (hname : Charset.named? name = none)
      (fallback : r.body.clientText = some (Text.ofChars (Utf8.decode r.body.bytes)))

/-- Four ways lead from the content type to a text, and of ASCII they all find the same. -/
theorem FamiliarCharset.text_ascii {r : Response} (h : FamiliarCharset r)
    (hascii : ∀ b ∈ r.body.bytes, IsAsciiByte b) :
    r.text? = some (Text.ofChars (asciiText r.body.bytes)) := by
  unfold Response.text? bodyText
  split
  · rename_i hempty
    rw [List.isEmpty_iff.mp hempty]
    rfl
  · cases h with
    | undeclared h =>
      have hdecode : Utf8.decode? r.body.bytes = some (asciiText r.body.bytes) :=
        Utf8.decode?_eq_some_iff.mpr (encode_asciiText hascii).symm
      simp only [h, detect?_ascii hascii, Option.bind_some, Form.decode?, hdecode]
    | known h =>
      obtain ⟨name, hdeclared, hnamed⟩ := Option.bind_eq_some_iff.mp h
      simp only [hdeclared, hnamed, Charset.decode_ascii _ hascii]
    | unknown h hname fallback =>
      have hdecode : Utf8.decode r.body.bytes = asciiText r.body.bytes :=
        Charset.utf8.decode_ascii hascii
      simp only [h, hname, fallback, hdecode]

/-- Of accepted headers nothing shows in what becomes of a body of ASCII. -/
theorem judge_ascii {r : Response} (h : ReachesBody r) (hcharset : FamiliarCharset r)
    (hascii : ∀ b ∈ r.body.bytes, IsAsciiByte b) :
    judge (.response r) = judgeRead (Json.read (asciiText r.body.bytes) r.body.room) := by
  rw [judge_of_reached h, bodyRead, hcharset.text_ascii hascii]
  rfl

/-- Where a status of success and valid headers bring a body of ASCII, a try comes to what the body
says, character by character: a document, a failure that may pass or, for want of room, a fault.
How the headers are written, which of the familiar charsets they declare and what else they hold
does not show. -/
theorem ascii_body_alone_decides {r r' : Response} (h : ReachesBody r) (h' : ReachesBody r')
    (hcharset : FamiliarCharset r) (hcharset' : FamiliarCharset r')
    (hbytes : r'.body.bytes = r.body.bytes) (hroom : r'.body.room = r.body.room)
    (hascii : ∀ b ∈ r.body.bytes, IsAsciiByte b) (url url' : Text)
    {host host' : Host} (hr : host.server.reply host.server.served = .response r)
    (hr' : host'.server.reply host'.server.served = .response r') :
    (fetch url' host').result = (fetch url host).result ∧
    Trace.records (fetch url' host').events = Trace.records (fetch url host).events ∧
    (fetch url host).result =
      (judgeRead (Json.read (asciiText r.body.bytes) r.body.room)).result := by
  have hj := judge_ascii h hcharset hascii
  have hj' := judge_ascii h' hcharset' (hbytes ▸ hascii)
  obtain ⟨hresult, hrecords⟩ := fetch_of_reply hr url
  obtain ⟨hresult', hrecords'⟩ := fetch_of_reply hr' url'
  rw [hj] at hresult hrecords
  rw [hj', hbytes, hroom] at hresult' hrecords'
  exact ⟨hresult'.trans hresult.symm, hrecords'.trans hrecords.symm, hresult⟩

/-- One project, sent as JSON, as Latin-1, in a charset that nobody knows, and under a name with a
blank in front, by which no charset is found. -/
theorem project_fetched_behind_other_headers :
    let url := Query.url Query.defaultEndpoint
    let answering : Response → Host := fun r => ⟨Table.empty, fun _ => .response r, 0⟩
    let body := Utf8.encode "\x7b\"project\":null\x7d".toList
    let flavor : Field := ⟨"Metadata-Flavor", "GOOGLE\t"⟩
    let answer : Field → Response := fun field => ⟨200, .ofFields [flavor, field], body⟩
    let plain := answer ⟨"Content-Type", "application/json"⟩
    let latin := answer ⟨"content-type", "application/JSON;Charset=Latin-1"⟩
    let bogus := answer ⟨"Content-Type", "application/json; charset=bogus-9"⟩
    let padded := answer ⟨" content-type", "application/json"⟩
    (∀ r ∈ [plain, latin, bogus, padded], ReachesBody r ∧ FamiliarCharset r) ∧
    (∀ b ∈ body, IsAsciiByte b) ∧
    (fetch url (answering plain)).result = .ok (.success (.object [("project", .null)])) ∧
    ∀ r ∈ [latin, bogus, padded],
      (fetch url (answering r)).result = (fetch url (answering plain)).result := by
  intro url answering body flavor answer plain latin bogus padded
  have hvalid : ∀ r ∈ [plain, latin, bogus, padded], validHeaders r.headers.fields = true := by
    decide +kernel
  have hreached : ∀ r ∈ [plain, latin, bogus, padded], r.status = 200 → ReachesBody r := by
    intro r hr hs
    exact ⟨by omega, hvalid r hr⟩
  have hplain : ReachesBody plain ∧ FamiliarCharset plain := by
    have hutf8 : (plain.headers.contentType?.bind Charset.declared?).bind Charset.named? =
        some .utf8 := by decide +kernel
    exact ⟨hreached plain (by simp) rfl, .known hutf8⟩
  have hlatin : ReachesBody latin ∧ FamiliarCharset latin := by
    have hlatin1 : (latin.headers.contentType?.bind Charset.declared?).bind Charset.named? =
        some .latin1 := by decide +kernel
    exact ⟨hreached latin (by simp) rfl, .known hlatin1⟩
  have hbogus : ReachesBody bogus ∧ FamiliarCharset bogus := by
    have hname : bogus.headers.contentType?.bind Charset.declared? =
        some (Text.ofString "bogus-9") := by decide +kernel
    exact ⟨hreached bogus (by simp) rfl, .unknown hname (by decide +kernel) rfl⟩
  have hpadded : ReachesBody padded ∧ FamiliarCharset padded := by
    have hnone : padded.headers.contentType?.bind Charset.declared? = none := by decide +kernel
    exact ⟨hreached padded (by simp) rfl, .undeclared hnone⟩
  have hall : ∀ r ∈ [latin, bogus, padded],
      (ReachesBody r ∧ FamiliarCharset r) ∧ r.body = plain.body :=
    List.forall_mem_cons.mpr ⟨⟨hlatin, rfl⟩, List.forall_mem_cons.mpr ⟨⟨hbogus, rfl⟩,
      List.forall_mem_singleton.mpr ⟨hpadded, rfl⟩⟩⟩
  have hascii : ∀ b ∈ body, IsAsciiByte b := by decide +kernel
  have hdecided : ∀ r, ReachesBody r ∧ FamiliarCharset r → r.body = plain.body →
      (fetch url (answering r)).result = (fetch url (answering plain)).result ∧
        (fetch url (answering plain)).result =
          (judgeRead (Json.read (asciiText body) plain.body.room)).result := by
    rintro r ⟨hreached, hcharset⟩ hbody
    have hanswered : ∀ r, (answering r).server.reply (answering r).server.served = .response r :=
      fun _ => rfl
    obtain ⟨hsame, _, hread⟩ := ascii_body_alone_decides hplain.1 hreached hplain.2 hcharset
      (congrArg Body.bytes hbody) (congrArg Body.room hbody) hascii url url (hanswered plain)
      (hanswered r)
    exact ⟨hsame, hread⟩
  refine ⟨List.forall_mem_cons.mpr ⟨hplain, fun r hr => (hall r hr).1⟩, hascii, ?_, ?_⟩
  · exact (hdecided plain hplain rfl).2
  · intro r hr
    obtain ⟨hr, hbody⟩ := hall r hr
    exact (hdecided r hr hbody).1

end Query

end CloudDetector
