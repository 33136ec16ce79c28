import CloudDetector.Proofs.DoubleValue
import CloudDetector.Proofs.FetchDecision
import CloudDetector.Proofs.ReadIntegers
import Mathlib.Data.Nat.Digits.Defs

namespace CloudDetector

namespace Json

theorem lookup_of_reach {v w : Json} {path : Path} (h : v.reach? path = some w) :
    v.lookup path = w.scalar := by
  rw [lookup, h]
  rfl

theorem scalar_integer {n : Int} (h : Decimal.Fits n) : scalar (.integer n) = Decimal.ofInt n := by
  rw [scalar, Decimal.ofInt?_of_fits h]
  rfl

/-- Whatever is finite is short enough to be written, by far. -/
theorem scalar_finite {d : Double} (h : d.isFinite = true) : ∃ n, d.truncate? = some n ∧
    TruncatedFrom d.value n ∧ (Nat.toDigits 10 n.natAbs).length ≤ 309 ∧
    scalar (.double d) = Decimal.ofInt n := by
  obtain ⟨n, htruncate, hvalue, hwhole⟩ := d.truncate_finite h
  have hlength : (Nat.toDigits 10 n.natAbs).length ≤ 309 := by
    rw [hwhole]
    exact Nat.toDigits_length 10 _ 309 (by decide) (d.wholePart_lt h)
  have hfits : Decimal.Fits n := Nat.le_trans hlength (by decide)
  refine ⟨n, htruncate, hvalue, hlength, ?_⟩
  rw [scalar, htruncate, Option.bind_some, Decimal.ofInt?_of_fits hfits]
  rfl

theorem scalar_special {d : Double} (h : d.IsSpecial) : scalar (.double d) = [] := by
  have hnone : d.truncate? = none := if_neg (fun hf => (d.finite_iff.mp hf) h)
  rw [scalar, hnone]
  rfl

end Json

namespace Query

/-- Whatever charset a body is in, its text is read alike. -/
theorem fits_bodyRead {r : Http.Response} {document : Json} (h : bodyRead r = .ok document) :
    document.IntegersFit := by
  unfold bodyRead at h
  split at h
  · exact Json.fits_read h
  · cases h

theorem fits_fetched {url : Text} {host : Host} {document : Json}
    (h : (fetch url host).result = .ok (.success document)) : document.IntegersFit := by
  obtain ⟨r, _, _, hread, _⟩ := judge_succeeds.mp h
  exact fits_bodyRead hread

/-- In a document that was fetched, an integer looks up as its decimal text and a finite number as
that of its whole part, whatever their size. Only NaN and the infinities have no text, and equal
numbers have equal ones. -/
theorem numbers_looked_up_exactly {url : Text} {host : Host} {document : Json}
    (h : (fetch url host).result = .ok (.success document)) (path : Path) :
    (∀ n, document.reach? path = some (.integer n) →
      Decimal.Fits n ∧ Decimal.ofInt? n = some (document.lookup path) ∧
        Decimal.Writes n (document.lookup path)) ∧
    (∀ d, document.reach? path = some (.double d) →
      (d.isFinite = true → ∃ n, TruncatedFrom d.value n ∧
        (Nat.toDigits 10 n.natAbs).length ≤ 309 ∧
        d.truncate?.bind Decimal.ofInt? = some (document.lookup path) ∧
        Decimal.Writes n (document.lookup path)) ∧
      (document.lookup path = [] ↔ d.IsSpecial)) ∧
    ∀ n d other path', document.reach? path = some (.integer n) →
      Json.reach? path' other = some (.double d) → d.isFinite = true → d.value = n →
      document.lookup path = other.lookup path' := by
  refine ⟨?_, ?_, ?_⟩
  · intro n hn
    have hfits := fits_fetched h path n hn
    rw [Json.lookup_of_reach hn, Json.scalar_integer hfits]
    exact ⟨hfits, Decimal.ofInt?_of_fits hfits, Decimal.writes_ofInt n⟩
  · intro d hd
    rw [Json.lookup_of_reach hd]
    constructor
    · intro hfinite
      obtain ⟨n, htruncate, hvalue, hlength, hscalar⟩ := Json.scalar_finite hfinite
      rw [hscalar, htruncate]
      exact ⟨n, hvalue, hlength, Decimal.ofInt?_of_fits (Nat.le_trans hlength (by decide)),
        Decimal.writes_ofInt n⟩
    · constructor
      · intro hempty
        by_contra hspecial
        obtain ⟨n, _, _, _, hscalar⟩ := Json.scalar_finite (d.finite_iff.mpr hspecial)
        exact Decimal.ofInt_ne_nil n (hscalar.symm.trans hempty)
      · exact Json.scalar_special
  · intro n d other path' hn hd hfinite hvalue
    obtain ⟨m, _, htruncated, _, hscalar⟩ := Json.scalar_finite hfinite
    rw [hvalue] at htruncated
    obtain rfl := htruncated.unique (truncatedFrom_self n)
    rw [Json.lookup_of_reach hn, Json.lookup_of_reach hd, hscalar,
      Json.scalar_integer (fits_fetched h path m hn)]

/-- An integer zero, a negative zero and a number past the last double, in one answer. -/
theorem zeros_fetched_look_alike :
    let body := Encoding.Utf8.encode
      "\x7b\"project\": \x7b\"n\": 0, \"x\": -0.0, \"y\": 1e400\x7d\x7d".toList
    let host : Host := ⟨Table.empty, fun _ => metadataReply body, 0⟩
    let zero : Double := ⟨0x8000000000000000⟩
    let document : Json := .object [("project", .object
      [("n", .integer 0), ("x", .double zero), ("y", .double (.infinity false))])]
    (fetch (Query.url Query.defaultEndpoint) host).result = .ok (.success document) ∧
    zero.isFinite = true ∧ zero.value = (0 : ℤ) ∧
    Decimal.Writes 0 (document.lookup ["project", "n"]) ∧
    document.lookup ["project", "n"] = document.lookup ["project", "x"] ∧
    document.lookup ["project", "y"] = [] := by
  intro body host zero document
  have hread : bodyRead ⟨200, metadataHeaders, body⟩ = .ok document := rfl
  have hfetch : (fetch (Query.url Query.defaultEndpoint) host).result =
      .ok (.success document) :=
    judge_succeeds.mpr ⟨_, rfl, ⟨by decide, metadata_headers_valid⟩, hread, _, _, rfl,
      List.mem_cons_self⟩
  have hvalue : zero.value = (0 : ℤ) := by
    have hexp : zero.exponentField = 0 := by decide
    have hfraction : zero.fractionField = 0 := by decide
    simp [Double.value, Double.magnitude, hexp, hfraction]
  obtain ⟨hinteger, _, hsame⟩ := numbers_looked_up_exactly hfetch ["project", "n"]
  obtain ⟨_, hdouble, _⟩ := numbers_looked_up_exactly hfetch ["project", "y"]
  refine ⟨hfetch, by decide, hvalue, (hinteger 0 rfl).2.2, ?_, ?_⟩
  · exact hsame 0 zero document ["project", "x"] rfl rfl (by decide) hvalue
  · exact (hdouble (.infinity false) rfl).2.mpr (.inr ⟨false, rfl⟩)

end Query
end CloudDetector
