import CloudDetector.Proofs.Vocabulary

namespace CloudDetector.Resource
open Attribute

def hyphen : CodePoint := CodePoint.ofChar '-'

def slash : CodePoint := CodePoint.ofChar '/'

/-- A cluster stands in a region or in a zone, and the hyphens of the name tell which. -/
structure ClusterAgrees (region zone : Option Text) : Prop where
  apart : region = none ∨ zone = none
  region : ∀ r, region = some r → r.count hyphen = 1
  zone : ∀ z, zone = some z → z.count hyphen = 2

/-- The region is that of the zone. A zone whose region has no name is alone. -/
structure ZoneAgrees (region zone : Option Text) : Prop where
  within : ∀ r, region = some r → ∃ z, zone = some z ∧
    ((hyphen ∉ z ∧ z = r) ∨ ∃ s, hyphen ∉ s ∧ z = r ++ hyphen :: s)
  alone : ∀ z, zone = some z → (region = none ↔ ∃ s, hyphen ∉ s ∧ z = hyphen :: s)

/-- How region and zone go together on a service. -/
def LocationsAgree (region zone : Option Text) : Option Service → Prop
  | some .kubernetesEngine => ClusterAgrees region zone
  | some .appEngine | some .computeEngine => ZoneAgrees region zone
  | _ => region = none ∧ zone = none

theorem cluster_agrees (location : Text) :
    ClusterAgrees (present (if location.count hyphen = 1 then location else []))
      (present (if location.count hyphen = 2 then location else [])) where
  apart := by
    by_cases h : location.count hyphen = 1
    · right
      rw [if_neg (by omega)]
      rfl
    · left
      rw [if_neg h]
      rfl
  region := by
    intro r hr
    obtain ⟨hne, rfl⟩ := present_eq_some.mp hr
    split at hne
    · rename_i h
      rw [if_pos h, h]
    · exact absurd rfl hne
  zone := by
    intro z hz
    obtain ⟨hne, rfl⟩ := present_eq_some.mp hz
    split at hne
    · rename_i h
      rw [if_pos h, h]
    · exact absurd rfl hne

theorem zone_agrees (zone : Text) : ZoneAgrees (present (regionOfZone zone)) (present zone) where
  within := by
    intro r hr
    obtain ⟨hne, rfl⟩ := present_eq_some.mp hr
    have hzone : zone ≠ [] := by
      intro he
      subst zone
      exact hne rfl
    exact ⟨zone, present_eq_some.mpr ⟨hzone, rfl⟩, Text.beforeLast_eq_iff.mp rfl⟩
  alone := by
    intro z hz
    obtain ⟨hne, rfl⟩ := present_eq_some.mp hz
    have hregion : regionOfZone z = [] ↔ _ := Text.beforeLast_eq_iff
    rw [present_eq_none, hregion]
    constructor
    · intro h
      exact h.resolve_left (fun hempty => hne hempty.2)
    · exact .inr

theorem row_of_chosen {document : Json} {environment : Environment} {s : Service}
    {row : Text × Origin} (hs : chosen document environment = some s) (h : row ∈ s.rows) :
    row ∈ rows document environment := by
  rw [rows, hs]
  exact List.mem_append_right _ h

/-- What stands in a row of the zone is told. -/
theorem zone_rows_agree {document : Json} {environment : Environment} {s : Service}
    (hs : chosen document environment = some s) (h : zoneRows ⊆ s.rows) :
    ZoneAgrees ((classify document environment).get? cloudRegion)
      ((classify document environment).get? cloudAvailabilityZone) := by
  have hzone : (cloudAvailabilityZone, .segment DocumentPath.instanceZone) ∈
      rows document environment := row_of_chosen hs (h List.mem_cons_self)
  have hregion : (cloudRegion, .region DocumentPath.instanceZone) ∈ rows document environment :=
    row_of_chosen hs (h (List.mem_cons_of_mem _ List.mem_cons_self))
  rw [get?_of_row hzone, get?_of_row hregion]
  exact zone_agrees (lastSegment (document.lookup DocumentPath.instanceZone))

theorem cluster_rows_agree {document : Json} {environment : Environment}
    (hs : chosen document environment = some .kubernetesEngine) :
    ClusterAgrees ((classify document environment).get? cloudRegion)
      ((classify document environment).get? cloudAvailabilityZone) := by
  have hsub : clusterRows ⊆ Service.rows .kubernetesEngine := by
    intro row h
    exact List.mem_append_right [_, _, _] h
  have hregion : (cloudRegion, .location 1 DocumentPath.clusterLocation) ∈
      rows document environment := row_of_chosen hs (hsub List.mem_cons_self)
  have hzone : (cloudAvailabilityZone, .location 2 DocumentPath.clusterLocation) ∈
      rows document environment :=
    row_of_chosen hs (hsub (List.mem_cons_of_mem _ List.mem_cons_self))
  rw [get?_of_row hzone, get?_of_row hregion]
  exact cluster_agrees (lastSegment (document.lookup DocumentPath.clusterLocation))

/-- Functions and containers have no location, nor has a machine of which nothing is known. -/
theorem unlocated {document : Json} {environment : Environment}
    (h : ∀ s, chosen document environment = some s → s = .cloudFunctions ∨ s = .cloudRun) :
    (classify document environment).get? cloudRegion = none ∧
      (classify document environment).get? cloudAvailabilityZone = none := by
  have hout : ∀ s, chosen document environment = some s →
      cloudRegion ∉ s.vocabulary ∧ cloudAvailabilityZone ∉ s.vocabulary := by
    intro s hs
    rcases h s hs with rfl | rfl <;> decide
  exact ⟨get?_of_foreign_key (by decide) (fun s hs => (hout s hs).1),
    get?_of_foreign_key (by decide) (fun s hs => (hout s hs).2)⟩

theorem agree_on_chosen (document : Json) (environment : Environment) :
    LocationsAgree ((classify document environment).get? cloudRegion)
      ((classify document environment).get? cloudAvailabilityZone)
      (chosen document environment) := by
  cases hs : chosen document environment with
  | none => exact unlocated (by simp [hs])
  | some s =>
    cases s with
    | kubernetesEngine => exact cluster_rows_agree hs
    | cloudFunctions => exact unlocated (by simp [hs])
    | cloudRun => exact unlocated (by simp [hs])
    | appEngine =>
      apply zone_rows_agree hs
      intro row h
      exact List.mem_append_right [_, _, _, _] h
    | computeEngine =>
      apply zone_rows_agree hs
      intro row h
      exact List.mem_append_right [_, _, _, _] h

/-- The origin is a part of a qualified name. -/
def Origin.isSegment : Origin → Bool
  | segment _ | region _ | location _ _ => true
  | _ => false

theorem slash_not_mem_value {document : Json} {environment : Environment} {origin : Origin}
    (h : origin.isSegment = true) : slash ∉ origin.value document environment := by
  have hlast : ∀ path, slash ∉ lastSegment (document.lookup path) :=
    fun path => Text.not_mem_afterLast slash (document.lookup path)
  cases origin with
  | constant value => cases h
  | environment name => cases h
  | document path => cases h
  | segment path => exact hlast path
  | region path => exact fun hm => hlast path (Text.mem_of_mem_beforeLast hm)
  | location hyphens path =>
    simp only [Origin.value]
    split
    · exact hlast path
    · exact List.not_mem_nil

theorem segment_of_row {document : Json} {environment : Environment} {key : Text} {origin : Origin}
    (hkey : key ∈ [cloudRegion, cloudAvailabilityZone, hostType])
    (hr : (key, origin) ∈ rows document environment) : origin.isSegment = true := by
  have hall : ∀ s : Service, ∀ row ∈ s.rows,
      row.1 ∈ [cloudRegion, cloudAvailabilityZone, hostType] → row.2.isSegment = true := by
    intro s
    cases s <;> decide
  have hproject : ∀ row ∈ projectRows, row.1 ∉ [cloudRegion, cloudAvailabilityZone, hostType] := by
    decide
  rcases List.mem_append.mp hr with hr | hr
  · exact absurd hkey (hproject _ hr)
  · cases hs : chosen document environment with
    | none =>
      rw [hs] at hr
      cases hr
    | some s =>
      rw [hs] at hr
      exact hall s _ hr hkey

/-- Region and zone go together as they should on the service that the attributes name, whatever
the document holds in their places, and no location or type is a qualified name. -/
theorem locations_agree (document : Json) (environment : Environment) :
    (classify document environment).get? cloudPlatform =
      (chosen document environment).map Service.name ∧
    LocationsAgree ((classify document environment).get? cloudRegion)
      ((classify document environment).get? cloudAvailabilityZone)
      (chosen document environment) ∧
    ∀ key ∈ [cloudRegion, cloudAvailabilityZone, hostType], ∀ value,
      (classify document environment).get? key = some value → slash ∉ value := by
  refine ⟨classify_platform document environment, agree_on_chosen document environment, ?_⟩
  intro key hkey value hv
  obtain ⟨_, origin, hr, rfl⟩ := get?_classify.mp hv
  exact slash_not_mem_value (segment_of_row hkey hr)

end CloudDetector.Resource
