import CloudDetector.Proofs.AttributeTable

namespace CloudDetector.Resource
open Attribute

/-- The names of the attributes that a service may have of its own. -/
def Service.vocabulary : Service → List Text
  | kubernetesEngine => [cloudPlatform, clusterName, hostId, cloudRegion, cloudAvailabilityZone]
  | cloudFunctions | cloudRun => [cloudPlatform, faasName, faasVersion, faasInstance]
  | appEngine =>
    [cloudPlatform, faasName, faasVersion, faasInstance, cloudAvailabilityZone, cloudRegion]
  | computeEngine =>
    [cloudPlatform, hostType, hostId, hostName, cloudAvailabilityZone, cloudRegion]

theorem keys_rows (s : Service) : s.rows.map Prod.fst = s.vocabulary := by cases s <;> rfl

/-- Whatever else is known, the provider is. -/
theorem classify_provider (document : Json) (environment : Environment) :
    (classify document environment).get? cloudProvider = some (Text.ofString "gcp") :=
  get?_classify.mpr ⟨by decide, .constant "gcp", List.mem_cons_self, rfl⟩

/-- A service that is chosen is named. -/
theorem classify_platform (document : Json) (environment : Environment) :
    (classify document environment).get? cloudPlatform =
      (chosen document environment).map Service.name := by
  cases hs : chosen document environment with
  | none =>
    apply get?_of_no_row
    rw [rows, hs]
    decide
  | some s =>
    have hr : (cloudPlatform, .constant s.name) ∈ rows document environment := by
      rw [rows, hs]
      apply List.mem_append_right
      cases s <;> exact List.mem_cons_self
    have hv : s.name ≠ [] := by cases s <;> decide
    rw [get?_of_row hr]
    exact present_eq_some.mpr ⟨hv, rfl⟩

/-- An attribute that is not told of every service belongs to the one that is chosen. -/
theorem chosen_of_key {document : Json} {environment : Environment} {key : Text}
    (hkey : key ∉ projectRows.map Prod.fst) (h : (classify document environment).get? key ≠ none) :
    ∃ s, chosen document environment = some s ∧ key ∈ s.vocabulary := by
  obtain ⟨value, hv⟩ := Option.ne_none_iff_exists'.mp h
  obtain ⟨_, origin, hr, _⟩ := get?_classify.mp hv
  rcases List.mem_append.mp hr with hr | hr
  · exact absurd (List.mem_map_of_mem (f := Prod.fst) hr) hkey
  · cases hs : chosen document environment with
    | none =>
      rw [hs] at hr
      cases hr
    | some s =>
      rw [hs] at hr
      refine ⟨s, rfl, ?_⟩
      rw [← keys_rows]
      exact List.mem_map_of_mem (f := Prod.fst) hr

theorem get?_of_foreign_key {document : Json} {environment : Environment} {key : Text}
    (hkey : key ∉ projectRows.map Prod.fst)
    (h : ∀ s, chosen document environment = some s → key ∉ s.vocabulary) :
    (classify document environment).get? key = none := by
  cases hv : (classify document environment).get? key with
  | none => rfl
  | some value =>
    obtain ⟨s, hs, hm⟩ := chosen_of_key hkey (Option.ne_none_iff_exists'.mpr ⟨value, hv⟩)
    exact absurd hm (h s hs)

/-- The attributes of a resource against the rows that apply to it. -/
structure Tabulated (document : Json) (environment : Environment) (attributes : Attributes) :
    Prop where
  entries : attributes.entries = told document environment (rows document environment)
  present : ∀ key value, attributes.get? key = some value ↔ value ≠ [] ∧
    ∃ origin, (key, origin) ∈ rows document environment ∧ origin.value document environment = value
  provider : attributes.get? cloudProvider = some (Text.ofString "gcp")
  platform : attributes.get? cloudPlatform = (chosen document environment).map Service.name
  /-- No key of another service is there. -/
  vocabulary : ∀ key, attributes.get? key ≠ none → key ∈ [cloudProvider, cloudAccountId] ∨
    ∃ s, chosen document environment = some s ∧ key ∈ s.vocabulary
  machine : attributes.get? hostType ≠ none ∨ attributes.get? hostName ≠ none →
    chosen document environment = some .computeEngine
  instanceId : attributes.get? hostId ≠ none → chosen document environment = some .computeEngine ∨
    chosen document environment = some .kubernetesEngine
  cluster : attributes.get? clusterName ≠ none →
    chosen document environment = some .kubernetesEngine

/-- For every document and environment the attributes are those of the table. -/
theorem classify_tabulated (document : Json) (environment : Environment) :
    Tabulated document environment (classify document environment) where
  entries := entries_classify document environment
  present key value := get?_classify
  provider := classify_provider document environment
  platform := classify_platform document environment
  vocabulary := by
    intro key h
    by_cases hkey : key ∈ projectRows.map Prod.fst
    · exact .inl hkey
    · exact .inr (chosen_of_key hkey h)
  machine := by
    intro h
    obtain ⟨s, hs, hm⟩ : ∃ s, chosen document environment = some s ∧
        (hostType ∈ s.vocabulary ∨ hostName ∈ s.vocabulary) := by
      rcases h with h | h
      · obtain ⟨s, hs, hm⟩ := chosen_of_key (by decide) h
        exact ⟨s, hs, .inl hm⟩
      · obtain ⟨s, hs, hm⟩ := chosen_of_key (by decide) h
        exact ⟨s, hs, .inr hm⟩
    cases s with
    | computeEngine => exact hs
    | _ => exact absurd hm (by decide)
  instanceId := by
    intro h
    obtain ⟨s, hs, hm⟩ := chosen_of_key (by decide) h
    cases s with
    | computeEngine => exact .inl hs
    | kubernetesEngine => exact .inr hs
    | _ => exact absurd hm (by decide)
  cluster := by
    intro h
    obtain ⟨s, hs, hm⟩ := chosen_of_key (by decide) h
    cases s with
    | kubernetesEngine => exact hs
    | _ => exact absurd hm (by decide)

end CloudDetector.Resource
