import CloudDetector.Proofs.LocationAgreement

namespace CloudDetector.Resource
open Attribute

/-- The last segment of a name has no slash. It is all of the name, or a slash sets it off from what
qualifies it. -/
def EndsIn (name last : Text) : Prop :=
  slash ∉ last ∧ (name = last ∨ ∃ qualifier, name = qualifier ++ slash :: last)

/-- The last hyphen of a zone's name sets off the zone from its region. A name without a hyphen is
that of both. -/
def LiesIn (zone region : Text) : Prop :=
  (hyphen ∉ zone ∧ zone = region) ∨ ∃ part, hyphen ∉ part ∧ zone = region ++ hyphen :: part

/-- The second builder is the first with a zone stored, and with its region unless that has no
name. -/
structure Places (zone region : Text) (b b' : Builder) : Prop where
  stored : b'.attributes.get? cloudAvailabilityZone = some zone
  within : region ≠ [] → b'.attributes.get? cloudRegion = some region
  nameless : region = [] → b'.attributes.get? cloudRegion = b.attributes.get? cloudRegion
  others : ∀ key, key ≠ cloudAvailabilityZone → key ≠ cloudRegion →
    b'.attributes.get? key = b.attributes.get? key

theorem last_segment_eq_iff {name last : Text} : lastSegment name = last ↔ EndsIn name last :=
  Text.afterLast_eq_iff

/-- A name with a slash at its end has an empty last segment. -/
example : lastSegment "projects/1/" = [] := rfl

theorem region_of_zone_eq_iff {zone region : Text} :
    regionOfZone zone = region ↔ LiesIn zone region := Text.beforeLast_eq_iff

/-- A zone and its region are set one after the other, and their keys differ. -/
theorem set_zone_then_region (b : Builder) {zone : Text} (hz : zone ≠ []) (region : Text) :
    Places zone region b ((b.set cloudAvailabilityZone zone).set cloudRegion region) := by
  let placed := (b.set cloudAvailabilityZone zone).set cloudRegion region
  have hget : ∀ key, placed.attributes.get? key =
      if key = cloudRegion ∧ region ≠ [] then some region
      else if key = cloudAvailabilityZone ∧ zone ≠ [] then some zone
      else b.attributes.get? key := by
    intro key
    rw [Builder.get?_set, Builder.get?_set]
  have hapart : cloudAvailabilityZone ≠ cloudRegion := by decide
  refine ⟨?_, ?_, ?_, ?_⟩
  · rw [hget, if_neg (fun h => hapart h.1), if_pos ⟨rfl, hz⟩]
  · intro hr
    rw [hget, if_pos ⟨rfl, hr⟩]
  · intro hr
    rw [hget, if_neg (fun h => h.2 hr), if_neg (fun h => hapart h.1.symm)]
  · intro key hzone hregion
    rw [hget, if_neg (fun h => hregion h.1), if_neg (fun h => hzone h.1)]

/-- Whatever qualifies the zone in the document, its name is stored, and what stands before the last
hyphen as the region. -/
theorem zone_and_region_stored {b : Builder} {qualifier region part : Text}
    (hregion : slash ∉ region) (hpart : slash ∉ part) (hlast : hyphen ∉ part)
    (h : b.metadata DocumentPath.instanceZone = qualifier ++ slash :: (region ++ hyphen :: part)) :
    Places (region ++ hyphen :: part) region b b.setZoneAndRegion := by
  have hfree : slash ∉ region ++ hyphen :: part := by
    have hapart : slash ≠ hyphen := by decide
    simp [hregion, hpart, hapart]
  have hzone : lastSegment (b.metadata DocumentPath.instanceZone) = region ++ hyphen :: part :=
    last_segment_eq_iff.mpr ⟨hfree, .inr ⟨qualifier, h⟩⟩
  have hwithin : regionOfZone (region ++ hyphen :: part) = region :=
    region_of_zone_eq_iff.mpr (.inr ⟨part, hlast, rfl⟩)
  rw [Builder.setZoneAndRegion, hzone, hwithin]
  exact set_zone_then_region b (by simp) region

/-- Names are taken apart at their last slash and zones at their last hyphen, in the one way that
there is, and what stands before a slash has no part in the segment behind it. So a builder stores
the zone and the region that a qualified name of any form ends in. -/
theorem qualified_names_taken_apart :
    (∀ name last, lastSegment name = last ↔ EndsIn name last) ∧
    (∀ qualifier name, lastSegment (qualifier ++ slash :: name) = lastSegment name) ∧
    (∀ name, lastSegment (lastSegment name) = lastSegment name) ∧
    (∀ zone region, regionOfZone zone = region ↔ LiesIn zone region) ∧
    ∀ (b : Builder) (qualifier region part : Text),
      slash ∉ region → slash ∉ part → hyphen ∉ part →
      b.metadata DocumentPath.instanceZone = qualifier ++ slash :: (region ++ hyphen :: part) →
      Places (region ++ hyphen :: part) region b b.setZoneAndRegion := by
  refine ⟨?_, ?_, ?_, ?_, ?_⟩
  · intro name last
    exact last_segment_eq_iff
  · exact Text.afterLast_behind slash
  · intro name
    exact Text.afterLast_of_not_mem (Text.not_mem_afterLast slash name)
  · intro zone region
    exact region_of_zone_eq_iff
  · intro b qualifier region part
    exact zone_and_region_stored

/-- A region with a hyphen of its own is found behind two slashes. -/
theorem zone_behind_two_slashes_taken_apart :
    let qualifier : Text := "projects/1/zones/"
    let document : Json :=
      .object [("instance", .object [("zone", .string "projects/1/zones//us-east1-b")])]
    let b := Builder.new document Table.empty
    slash ∉ Text.ofString "us-east1" ∧ slash ∉ Text.ofString "b" ∧ hyphen ∉ Text.ofString "b" ∧
    b.metadata DocumentPath.instanceZone =
      qualifier ++ slash :: (Text.ofString "us-east1" ++ hyphen :: Text.ofString "b") ∧
    Places "us-east1-b" "us-east1" b b.setZoneAndRegion := by
  intro qualifier document b
  have hregion : slash ∉ Text.ofString "us-east1" := by decide
  have hpart : slash ∉ Text.ofString "b" := by decide
  have hlast : hyphen ∉ Text.ofString "b" := by decide
  have hzone : b.metadata DocumentPath.instanceZone =
      qualifier ++ slash :: (Text.ofString "us-east1" ++ hyphen :: Text.ofString "b") := by rfl
  obtain ⟨_, _, _, _, hstored⟩ := qualified_names_taken_apart
  exact ⟨hregion, hpart, hlast, hzone, hstored b qualifier _ _ hregion hpart hlast hzone⟩

end CloudDetector.Resource
