import CloudDetector.Proofs.DocumentRead
import CloudDetector.Proofs.FetchDecision
import CloudDetector.Proofs.MemberOrder
import CloudDetector.Proofs.PlainValue
import CloudDetector.Proofs.Utf8Encoded

namespace CloudDetector

theorem Json.Reordered.has_project {d d' : Json} (h : d.Reordered d')
    (hproject : Query.HasProject d) : Query.HasProject d' := by
  rw [Query.has_project_iff] at hproject ⊢
  rw [h.member_isSome]
  exact hproject

namespace Query

/-- A success of a metadata server whose content type declares UTF-8. -/
structure AnswersUtf8 (r : Http.Response) : Prop where
  reached : ReachesBody r
  charset : (r.headers.contentType?.bind Encoding.Charset.declared?).bind
    Encoding.Charset.named? = some .utf8

/-- JSON is UTF-8, whether the content type says so or not. -/
theorem answers_utf8 {status : Int} (h : 200 ≤ status ∧ status < 300) (body : Http.Body) :
    ∀ contentType ∈ ["application/json", "application/json; charset=utf-8"],
      AnswersUtf8 ⟨status, .ofFields
        [⟨"Content-Type", Text.ofString contentType⟩, ⟨"Metadata-Flavor", "Google"⟩], body⟩ := by
  have hvalid : ∀ contentType ∈ ["application/json", "application/json; charset=utf-8"],
      let headers : Http.Headers := .ofFields
        [⟨"Content-Type", Text.ofString contentType⟩, ⟨"Metadata-Flavor", "Google"⟩]
      validHeaders headers.fields = true ∧
        (headers.contentType?.bind Encoding.Charset.declared?).bind Encoding.Charset.named? =
          some .utf8 := by decide +kernel
  intro contentType hc
  obtain ⟨hv, hd⟩ := hvalid contentType hc
  exact ⟨⟨h, hv⟩, hd⟩

theorem AnswersUtf8.body_read {r : Http.Response} (h : AnswersUtf8 r) :
    bodyRead r = Json.read (Encoding.Utf8.decode r.body.bytes) r.body.room :=
  bodyRead_declared h.charset

/-- Fetching undoes rendering. Every document can be rendered, and from the bytes of any text that
spells it, with its members in any order, it comes back as it was, up to the order. So every path
finds the same text in it, and it is classified alike in every environment. -/
theorem rendered_document_fetched {d : Json} (hproject : HasProject d) :
    (d.Plain 401 → ∃ text, d.Renders 401 text) ∧
    ∀ text r url (host : Host), d.Renders 401 text → AnswersUtf8 r →
      r.body.bytes = Encoding.Utf8.encode text →
      host.server.reply host.server.served = .response r →
      ∃ document, (fetch url host).result = .ok (.success document) ∧ d.Reordered document ∧
        (∀ path, document.lookup path = d.lookup path) ∧
        ∀ environment,
          Resource.classify document environment = Resource.classify d environment := by
  constructor
  · intro hplain
    obtain ⟨text, hspells⟩ := hplain.spelled
    exact ⟨text, d, .refl d, hspells.as_element⟩
  · rintro text r url host ⟨document, hreordered, hspells⟩ hanswers hbody hreply
    have hread : bodyRead r = .ok document := by
      rw [hanswers.body_read, hbody, Encoding.Utf8.decode_encode]
      exact Json.read_of_spells hspells r.body.ample
    refine ⟨document, ?_, hreordered, hreordered.lookup, Resource.classify_reordered hreordered⟩
    exact judge_succeeds.mpr ⟨r, hreply, hanswers.reached, hread, hreordered.has_project hproject⟩

/-- Members change places, a letter is escaped, and a character takes a pair. -/
theorem face_fetched_from_pair :
    let d : Json := .object [("project", .string "😀"), ("json", .array [.integer (-12)])]
    let text := " \x7b \"\\u006Ason\" : [-12 ],\"project\":\"\\ud83d\\uDE00\"\x7d\n".toList
    let contentType := "application/json; charset=utf-8"
    let r : Http.Response := ⟨204, .ofFields
      [⟨"Content-Type", Text.ofString contentType⟩, ⟨"Metadata-Flavor", "Google"⟩],
      Encoding.Utf8.encode text⟩
    let host : Host := ⟨Table.empty, fun _ => .response r, 0⟩
    HasProject d ∧ d.Plain 401 ∧ d.Renders 401 text ∧ AnswersUtf8 r ∧
    ∃ document, (fetch (Query.url Query.defaultEndpoint) host).result = .ok (.success document) ∧
      d.Reordered document ∧ document.lookup ["project"] = d.lookup ["project"] := by
  intro d text contentType r host
  have hproject : HasProject d := ⟨_, _, rfl, List.mem_cons_self⟩
  have hanswers : AnswersUtf8 r := answers_utf8 (by decide) _ contentType (by simp [contentType])
  have hplain : d.Plain 401 := by
    have hfits : Decimal.Fits (-12) := show 2 ≤ Decimal.maxDigits by decide
    have hitem : (Json.integer (-12)).Plain 399 := .integer hfits
    refine .object (by decide) ?_ ?_
    · exact List.forall_mem_cons.mpr ⟨⟨"project".toList, rfl⟩,
        List.forall_mem_singleton.mpr ⟨"json".toList, rfl⟩⟩
    · exact List.forall_mem_cons.mpr ⟨.string ['😀'],
        List.forall_mem_singleton.mpr (.array (List.forall_mem_singleton.mpr hitem))⟩
  have hrenders : d.Renders 401 text := by
    have hnone : Json.Blanks [] := nofun
    have hspace : Json.Blanks [' '] := by simp [Json.Blanks]
    have hnewline : Json.Blanks ['\n'] := by simp [Json.Blanks]
    have hunit : Json.UnitSpelling (16 * (16 * (16 * 0 + 0) + 6) + 10) "\\u006A".toList :=
      .digits (.inl rfl) (.inl rfl) (.inl rfl) (.inr rfl)
    have hfirst : Json.CharSpelling 'j' "\\u006A".toList := .unit hunit
    have hrest : Json.StringSpelling "son".toList "son".toList := .raw (by decide)
    have hname : Json.StringSpelling "json".toList "\\u006Ason".toList := .cons hfirst hrest
    have hhigh : Json.UnitSpelling (16 * (16 * (16 * 13 + 8) + 3) + 13) "\\ud83d".toList :=
      .digits (.inl rfl) (.inl rfl) (.inl rfl) (.inl rfl)
    have hlow : Json.UnitSpelling (16 * (16 * (16 * 13 + 14) + 0) + 0) "\\uDE00".toList :=
      .digits (.inr rfl) (.inr rfl) (.inl rfl) (.inl rfl)
    have hpair : Json.StringSpelling ['😀'] "\\ud83d\\uDE00".toList :=
      .cons (.pair (by decide) (by decide) (by decide) hhigh hlow) .nil
    have hnumber : Json.NumberSpelling (.integer (-12)) "-12".toList :=
      .integer true (Decimal.canonical_toDigits 12) (by decide)
    have hkey : Json.StringSpelling "project".toList "project".toList := .raw (by decide)
    have hjson : Json.Spells 400 (.member _ _) _ := .member hspace hname hspace
      (.element hspace (.array (.item (.element hnone (.number hnumber) hspace))) hnone)
    have hface : Json.Spells 400 (.member _ _) _ :=
      .member hnone hkey hnone (.element hnone (.string hpair) hnone)
    refine ⟨.object [("json", .array [.integer (-12)]), ("project", .string "😀")], ?_, ?_⟩
    · exact .members (by decide) (List.Perm.swap _ _ _)
    · exact .element hspace (.object (.nextMember (.firstMember hjson) hface)) hnewline
  obtain ⟨_, hfetch⟩ := rendered_document_fetched hproject
  obtain ⟨document, hresult, hreordered, hlookup, _⟩ :=
    hfetch text r (Query.url Query.defaultEndpoint) host hrenders hanswers rfl rfl
  exact ⟨hproject, hplain, hrenders, hanswers, document, hresult, hreordered, hlookup _⟩

end Query

end CloudDetector
