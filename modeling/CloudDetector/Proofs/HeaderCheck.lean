import CloudDetector.Proofs.AsciiCase
import CloudDetector.Query.Judgement

namespace CloudDetector

namespace Http.Field

/-- The content is JSON: name and value count without the blanks around them, and in either ASCII
case. -/
def SaysJson (f : Field) : Prop :=
  f.name.trim.foldAscii = "content-type" ∧
    Text.ofString "application/json" <+: f.value.trim.foldAscii

/-- A metadata server speaks. -/
def SaysMetadata (f : Field) : Prop :=
  f.name.trim.foldAscii = "metadata-flavor" ∧ f.value.trim.foldAscii = "google"

/-- The name is ASCII between its blanks, and so is as much of the value as a check compares. -/
def IsAscii (f : Field) : Prop :=
  ∀ c ∈ f.name.trim ++ f.value.trim.take (Text.ofString "application/json").length,
    c.isAscii = true

end Http.Field

namespace Text

/-- What folds into ASCII was ASCII. -/
theorem ascii_of_fold {t p : Text} (h : t.foldAscii = p)
    (hp : p.all CodePoint.isAscii = true) : ∀ c ∈ t, c.isAscii = true := by
  intro c hc
  rw [← c.isAscii_foldAscii]
  exact List.all_eq_true.mp hp _ (h ▸ List.mem_map_of_mem hc)

end Text

namespace Query
open Http

theorem json_content_iff (f : Field) : isJsonContent f = true ↔ f.SaysJson := by
  rw [isJsonContent, Bool.and_eq_true, beq_iff_eq, List.isPrefixOf_iff_prefix,
    Text.lower_eq_iff (by decide), Text.prefix_lower_iff (by decide)]
  rfl

theorem flavor_iff (f : Field) : isFlavor f = true ↔ f.SaysMetadata := by
  rw [isFlavor, Bool.and_eq_true, beq_iff_eq, beq_iff_eq, Text.lower_eq_iff (by decide),
    Text.lower_eq_iff (by decide)]
  rfl

theorem valid_headers_iff (fields : List Field) :
    validHeaders fields = true ↔ (∃ f ∈ fields, f.SaysJson) ∧ ∃ f ∈ fields, f.SaysMetadata := by
  simp only [validHeaders, Bool.and_eq_true, List.any_eq_true, json_content_iff, flavor_iff]

theorem says_json_ascii {f : Field} (h : f.SaysJson) : f.IsAscii := by
  intro c hc
  rcases List.mem_append.mp hc with hc | hc
  · exact Text.ascii_of_fold h.1 (by decide) c hc
  · have hfold := (List.prefix_iff_eq_take.mp h.2).symm
    rw [Text.foldAscii, ← List.map_take] at hfold
    exact Text.ascii_of_fold hfold (by decide) c hc

theorem says_metadata_ascii {f : Field} (h : f.SaysMetadata) : f.IsAscii := by
  intro c hc
  rcases List.mem_append.mp hc with hc | hc
  · exact Text.ascii_of_fold h.1 (by decide) c hc
  · exact Text.ascii_of_fold h.2 (by decide) c (List.mem_of_mem_take hc)

/-- A field with something beyond ASCII in what is compared counts for nothing. -/
theorem valid_headers_without {f : Field} (h : ¬f.IsAscii) (before after : List Field) :
    validHeaders (before ++ f :: after) = validHeaders (before ++ after) := by
  have hj : isJsonContent f = false := by
    rw [← Bool.not_eq_true, json_content_iff]
    exact fun hs => h (says_json_ascii hs)
  have hm : isFlavor f = false := by
    rw [← Bool.not_eq_true, flavor_iff]
    exact fun hs => h (says_metadata_ascii hs)
  simp only [validHeaders, List.any_append, List.any_cons, hj, hm, Bool.false_or]

/-- Headers are valid exactly if some field says that the content is JSON and some field that a
metadata server speaks, up to blanks around and ASCII case. Neither their order nor further fields
matter, and no character beyond ASCII stands for a letter. -/
theorem header_check_exact (fields : List Field) :
    (validHeaders fields = true ↔
      (∃ f ∈ fields, f.SaysJson) ∧ ∃ f ∈ fields, f.SaysMetadata) ∧
    (∀ fields', fields.Perm fields' → validHeaders fields' = validHeaders fields) ∧
    (∀ fields', fields.Sublist fields' → validHeaders fields = true →
      validHeaders fields' = true) ∧
    ∀ before f after, fields = before ++ f :: after → ¬f.IsAscii →
      validHeaders fields = validHeaders (before ++ after) := by
  refine ⟨valid_headers_iff fields, ?_, ?_, ?_⟩
  · intro fields' hperm
    rw [Bool.eq_iff_iff, valid_headers_iff, valid_headers_iff]
    simp only [hperm.mem_iff]
  · intro fields' hsub hvalid
    rw [valid_headers_iff] at hvalid ⊢
    obtain ⟨⟨f, hf, hj⟩, g, hg, hm⟩ := hvalid
    exact ⟨⟨f, hsub.subset hf, hj⟩, g, hsub.subset hg, hm⟩
  · rintro before f after rfl hf
    exact valid_headers_without hf before after

/-- Blanks and capitals are in order, a later refusal undoes nothing, and a dotted capital I is no
letter i. -/
theorem content_type_said_once_suffices :
    let content : Field := ⟨" CONTENT-Type\t", "Application/JSON; charset=utf-8"⟩
    let flavor : Field := ⟨"\u3000metadata-flavor", "GOOGLE\u00A0"⟩
    let other : Field := ⟨"Content-Type", "text/html"⟩
    let dotted : Field := ⟨"content-type", "appl\u0130cation/json"⟩
    validHeaders [content, flavor] = true ∧ [content, flavor].Perm [flavor, content] ∧
    validHeaders [flavor, content] = true ∧
    [content, flavor].Sublist [content, other, flavor, other] ∧
    validHeaders [content, other, flavor, other] = true ∧ ¬dotted.IsAscii ∧
    validHeaders [flavor, dotted, other] = validHeaders [flavor, other] := by
  intro content flavor other dotted
  obtain ⟨hiff, hperm, hsub, _⟩ := header_check_exact [content, flavor]
  obtain ⟨_, _, _, hwithout⟩ := header_check_exact [flavor, dotted, other]
  have hvalid : validHeaders [content, flavor] = true := by
    refine hiff.mpr ⟨⟨content, by simp, by decide, by decide⟩, flavor, by simp, by decide, by decide⟩
  have hp : [content, flavor].Perm [flavor, content] := List.Perm.swap _ _ _
  have hs : [content, flavor].Sublist [content, other, flavor, other] := by simp
  have hd : ¬dotted.IsAscii := fun h => absurd (h 'İ' (by decide)) (by decide)
  exact ⟨hvalid, hp, (hperm _ hp).trans hvalid, hs, hsub _ hs hvalid, hd,
    hwithout [flavor] dotted [other] rfl hd⟩

end Query
end CloudDetector
