import CloudDetector.Proofs.CacheLife
import CloudDetector.Proofs.CutText
import CloudDetector.Proofs.RenderedDocument

namespace CloudDetector
open Encoding

namespace Json

/-- A text that spells an object and ends with its brace. -/
def ObjectText (text : List Char) : Prop := ∃ before cs members, text = before ++ cs ∧
  Blanks before ∧ Spells 401 (.value (.object members)) cs

theorem ObjectText.run {text : List Char} (h : ObjectText text) {room : Nat}
    (hroom : 401 ≤ room) : ∃ v, Reader.run room Reader.start text = .ok ⟨[], .closed v⟩ := by
  obtain ⟨before, cs, members, rfl, hb, hcs⟩ := h
  exact ⟨_, Reader.run_object hb hcs hroom⟩

theorem ObjectText.ends {text : List Char} (h : ObjectText text) :
    ∃ front, text = front ++ ['}'] := by
  obtain ⟨before, cs, members, rfl, _, hcs⟩ := h
  obtain ⟨inner, rfl⟩ := hcs.object_braces
  exact ⟨before ++ '{' :: inner, by simp⟩

/-- Bytes of an object's text, cut anywhere or with more than blanks behind them. -/
inductive Spoiled : List UInt8 → Prop
  | cut {text : List Char} {front back : List UInt8} (h : ObjectText text)
      (hcut : front ++ back = Utf8.encode text) (hback : back ≠ []) : Spoiled front
  | polluted {text : List Char} {more : List UInt8} (h : ObjectText text)
      (hmore : ∃ c ∈ Utf8.decode more, c ∉ [' ', '\t', '\n', '\r']) :
      Spoiled (Utf8.encode text ++ more)

/-- The brace of an object comes last, so no cut leaves it in place. -/
theorem ObjectText.brace_cut {text before after : List Char} {c : Char} (h : ObjectText text)
    (hcut : text = before ++ c :: after) : '}' ∈ c :: after := by
  obtain ⟨front, hfront⟩ := h.ends
  have hlast : (c :: after).getLast? = some '}' := by
    rw [← List.getLast?_append_of_ne_nil before (List.cons_ne_nil c after), ← hcut, hfront]
    simp
  exact List.mem_of_getLast? hlast

theorem Spoiled.malformed {bytes : List UInt8} (h : Spoiled bytes) {room : Nat}
    (hroom : 401 ≤ room) : read (Utf8.decode bytes) room = .error .malformed := by
  cases h with
  | cut h hcut hback =>
    obtain ⟨v, hrun⟩ := h.run hroom
    obtain ⟨before, c, after, rfl, hdecoded⟩ := Utf8.decode_cut hcut hback
    obtain ⟨hshort, hreplaced⟩ := read_incomplete hrun (h.brace_cut rfl)
    rcases hdecoded with hdecoded | hdecoded
    · rw [hdecoded, hshort]
    · rw [hdecoded, hreplaced]
  | polluted h hmore =>
    obtain ⟨v, hrun⟩ := h.run hroom
    rw [Utf8.decode_encode_append]
    exact read_polluted hrun hmore

end Json

namespace Query

theorem AnswersUtf8.spoiled {r : Http.Response} (h : AnswersUtf8 r) (hbody : Json.Spoiled r.body.bytes) :
    bodyRead r = .error .malformed := by
  rw [h.body_read, hbody.malformed r.body.ample]

/-- A body that is cut short or has more behind it asks for another try, and tells so once. What a
detection keeps comes from the last reply, whose body is none of these. -/
theorem spoiled_body_never_kept :
    (∀ url host r, host.server.reply host.server.served = .response r → AnswersUtf8 r →
      Json.Spoiled r.body.bytes → (fetch url host).result = .ok (.retryable .payload) ∧
        Trace.records (fetch url host).events = [undecodable]) ∧
    ∀ (d : Detector) environment host attributes, d.cache = none →
      (d.detect environment host).detector.cache = some attributes →
      ∃ document r, host.server.reply (host.server.served +
          ((Trace.requests (d.detect environment host).events).length - 1)) = .response r ∧
        ReachesBody r ∧ bodyRead r = .ok document ∧
        attributes = Resource.classify document environment ∧
        ¬(AnswersUtf8 r ∧ Json.Spoiled r.body.bytes) := by
  constructor
  · intro url host r hreply hanswers hspoiled
    have hjudge := (Judged.malformed hanswers.reached (hanswers.spoiled hspoiled)).judge_eq
    rw [records_fetch, hreply, hjudge]
    change (judge (host.server.reply host.server.served)).result = _ ∧ _
    rw [hreply, hjudge]
    exact ⟨rfl, rfl⟩
  · intro d environment host attributes huncached hkept
    by_cases hfinds : ∃ document, d.Finds host document
    · obtain ⟨document, hfinds⟩ := hfinds
      obtain ⟨_, hcache, _, hlast⟩ := Detector.detect_found hfinds environment
      obtain ⟨r, hreply, hreached, hread, _⟩ := judge_succeeds.mp hlast
      refine ⟨document, r, hreply, hreached, hread, ?_, ?_⟩
      · exact Option.some.inj (hkept.symm.trans hcache)
      · rintro ⟨hanswers, hspoiled⟩
        rw [hanswers.spoiled hspoiled] at hread
        cases hread
    · rw [Detector.detect_nothing huncached (not_exists.mp hfinds)] at hkept
      cases hkept

/-- An answer that breaks off within a letter, one with a stray byte behind it, and a whole one. -/
theorem answer_cut_within_letter :
    let url := Query.url Query.defaultEndpoint
    let answer : List UInt8 → Http.Response := fun body => ⟨200, metadataHeaders, body⟩
    let answering : List UInt8 → Host :=
      fun body => ⟨Table.empty, fun _ => .response (answer body), 0⟩
    let document : Json := .object [("project", .string "é")]
    let whole := Utf8.encode "\x7b\"project\":\"é\"\x7d".toList
    let cut := whole.take 13
    let polluted := whole ++ [0x20, 0xC3]
    let d : Detector := .new {}
    let attributes := Resource.classify document Table.empty
    (∀ body, AnswersUtf8 (answer body)) ∧ Json.Spoiled cut ∧ Json.Spoiled polluted ∧
    (fetch url (answering cut)).result = .ok (.retryable .payload) ∧
    (fetch url (answering polluted)).result = .ok (.retryable .payload) ∧
    d.cache = none ∧ (d.detect Table.empty (answering whole)).detector.cache = some attributes ∧
    ¬Json.Spoiled whole := by
  intro url answer answering document whole cut polluted d attributes
  obtain ⟨hfetch, hdetect⟩ := spoiled_body_never_kept
  have hanswers : ∀ body, AnswersUtf8 (answer body) := fun body =>
    answers_utf8 (by decide) body "application/json" List.mem_cons_self
  have hblanks : Json.Blanks [] := nofun
  have hspells : Json.Spells 401 (.value document) "\x7b\"project\":\"é\"\x7d".toList := by
    have hname : Json.StringSpelling "project".toList "project".toList := .raw (by decide)
    have hvalue : Json.StringSpelling ['é'] ['é'] := .raw (by decide)
    exact .object (.firstMember
      (.member hblanks hname hblanks (.element hblanks (.string hvalue) hblanks)))
  have htext : Json.ObjectText "\x7b\"project\":\"é\"\x7d".toList :=
    ⟨[], _, _, rfl, hblanks, hspells⟩
  have hcut : Json.Spoiled cut := .cut htext (List.take_append_drop 13 whole) (by decide)
  have hpolluted : Json.Spoiled polluted := .polluted htext ⟨replacement, by decide, by decide⟩
  have hread : bodyRead (answer whole) = .ok document := by
    have hbytes : (answer whole).body.bytes = whole := rfl
    rw [(hanswers whole).body_read, hbytes, Utf8.decode_encode]
    exact Json.read_of_spells (.element hblanks hspells hblanks) (answer whole).body.ample
  have hfound : (answering whole).result 0 = .ok (.success document) :=
    judge_succeeds.mpr ⟨_, rfl, (hanswers whole).reached, hread, _, _, rfl, List.mem_cons_self⟩
  have hfinds : d.Finds (answering whole) document :=
    ⟨_, rfl, (attempts_settled (by rw [hfound]; rfl)).trans hfound⟩
  have hkept : (d.detect Table.empty (answering whole)).detector.cache = some attributes :=
    (Detector.detect_found hfinds Table.empty).2.1
  obtain ⟨_, r, hreply, _, _, _, hsound⟩ := hdetect d Table.empty _ attributes rfl hkept
  obtain rfl : answer whole = r := Http.Reply.response.inj hreply
  exact ⟨hanswers, hcut, hpolluted, (hfetch url _ _ rfl (hanswers cut) hcut).1,
    (hfetch url _ _ rfl (hanswers polluted) hpolluted).1, rfl, hkept,
    fun h => hsound ⟨hanswers whole, h⟩⟩

end Query

end CloudDetector
