import CloudDetector.Proofs.Spelling
import Mathlib.Data.List.Induction

namespace CloudDetector.Json

/-- What a document is made of: whole numbers that are not too long, texts of characters, names that
are distinct within an object, and no more than so many containers within one another. -/
inductive Plain : Nat → Json → Prop
  | null {n : Nat} : Plain n .null
  | bool {n : Nat} (b : Bool) : Plain n (.bool b)
  | integer {n : Nat} {i : Int} (h : Decimal.Fits i) : Plain n (.integer i)
  | string {n : Nat} (t : List Char) : Plain n (.string (Text.ofChars t))
  | array {n : Nat} {vs : List Json} (h : ∀ v ∈ vs, Plain n v) : Plain (n + 1) (.array vs)
  | object {n : Nat} {members : List (Text × Json)} (distinct : (members.map Prod.fst).Nodup)
      (names : ∀ m ∈ members, ∃ t, m.1 = Text.ofChars t) (h : ∀ m ∈ members, Plain n m.2) :
      Plain (n + 1) (.object members)

theorem exists_hex {n : Nat} (h : n < 16) : ∃ c, HexSpelling n c :=
  ⟨"0123456789abcdef".toList[n], .inl (List.getElem?_eq_getElem h)⟩

/-- What no text may hold is below sixteen bits, so that one escape names it. -/
theorem exists_charSpelling (c : Char) : ∃ cs, CharSpelling c cs := by
  by_cases hraw : ' ' ≤ c
  · by_cases hshort : (c, c) ∈ shortEscapes
    · exact ⟨_, .short hshort⟩
    · have hc : c ≠ '"' ∧ c ≠ '\\' := by
        constructor <;> rintro rfl <;> exact hshort (by decide)
      exact ⟨_, .raw hraw hc.1 hc.2⟩
  · have hlt : c.toNat < 32 := Nat.lt_of_not_le hraw
    obtain ⟨x, hx⟩ := exists_hex (show c.toNat / 16 < 16 by omega)
    obtain ⟨y, hy⟩ := exists_hex (show c.toNat % 16 < 16 by omega)
    have hzero : HexSpelling 0 '0' := .inl rfl
    have hunit := UnitSpelling.digits hzero hzero hx hy
    have hc : 16 * (16 * (16 * 0 + 0) + c.toNat / 16) + c.toNat % 16 = c.toNat := by omega
    rw [hc] at hunit
    exact ⟨_, .unit hunit⟩

theorem exists_stringSpelling (t : List Char) : ∃ cs, StringSpelling t cs := by
  induction t with
  | nil => exact ⟨[], .nil⟩
  | cons c t ih =>
    obtain ⟨cs, hc⟩ := exists_charSpelling c
    obtain ⟨ds, ht⟩ := ih
    exact ⟨cs ++ ds, .cons hc ht⟩

theorem exists_numberSpelling {i : Int} (h : Decimal.Fits i) :
    ∃ cs, NumberSpelling (.integer i) cs := by
  have hvalue := Decimal.value_toDigits i.natAbs
  have hspelled := NumberSpelling.integer (decide (i < 0)) (Decimal.canonical_toDigits i.natAbs) h
  have hi : (if decide (i < 0) = true then -(Decimal.value (Nat.toDigits 10 i.natAbs) : Int)
      else Decimal.value (Nat.toDigits 10 i.natAbs)) = i := by
    rw [hvalue]
    by_cases hneg : i < 0
    · rw [if_pos (decide_eq_true hneg)]
      omega
    · rw [if_neg (by rw [decide_eq_false hneg]; nofun)]
      omega
  rw [hi] at hspelled
  exact ⟨_, hspelled⟩

theorem Spells.as_element {n : Nat} {v : Json} {cs : List Char} (h : Spells n (.value v) cs) :
    Spells n (.element v) cs := by
  have hblanks : Blanks [] := nofun
  have helement := Spells.element hblanks h hblanks
  rwa [List.nil_append, List.append_nil] at helement

theorem exists_items {n : Nat} {vs : List Json} (hne : vs ≠ [])
    (h : ∀ v ∈ vs, ∃ cs, Spells n (.value v) cs) : ∃ cs, Spells n (.items vs) cs := by
  induction vs using List.reverseRecOn with
  | nil => exact absurd rfl hne
  | append_singleton vs v ih =>
    obtain ⟨cs, hcs⟩ := h v (by simp)
    by_cases hvs : vs = []
    · subst hvs
      exact ⟨cs, .item hcs.as_element⟩
    · obtain ⟨ds, hds⟩ := ih hvs (fun w hw => h w (by simp [hw]))
      exact ⟨_, .nextItem hds hcs.as_element⟩

/-- A name that is new comes last, so that the members stay in order. -/
theorem exists_members {n : Nat} {members : List (Text × Json)} (hne : members ≠ [])
    (distinct : (members.map Prod.fst).Nodup) (names : ∀ m ∈ members, ∃ t, m.1 = Text.ofChars t)
    (h : ∀ m ∈ members, ∃ cs, Spells n (.value m.2) cs) :
    ∃ cs, Spells n (.members members) cs := by
  have hblanks : Blanks [] := nofun
  induction members using List.reverseRecOn with
  | nil => exact absurd rfl hne
  | append_singleton members m ih =>
    obtain ⟨name, v⟩ := m
    obtain ⟨t, rfl⟩ : ∃ t, name = Text.ofChars t := names (name, v) (by simp)
    obtain ⟨ns, hns⟩ := exists_stringSpelling t
    obtain ⟨cs, hcs⟩ : ∃ cs, Spells n (.value v) cs := h (Text.ofChars t, v) (by simp)
    have hmember := Spells.member hblanks hns hblanks hcs.as_element
    by_cases hmembers : members = []
    · subst hmembers
      exact ⟨_, .firstMember hmember⟩
    · rw [List.map_append, List.nodup_append] at distinct
      obtain ⟨hdistinct, _, hnew⟩ := distinct
      obtain ⟨ds, hds⟩ := ih hmembers hdistinct (fun m hm => names m (by simp [hm]))
        (fun m hm => h m (by simp [hm]))
      have hput : putEntry (Text.ofChars t) v members = members ++ [(Text.ofChars t, v)] :=
        putEntry_of_new v (fun hm => hnew _ hm _ List.mem_cons_self rfl)
      rw [← hput]
      exact ⟨_, .nextMember hds hmember⟩

/-- Whatever a document is made of can be spelled. -/
theorem Plain.spelled {n : Nat} {v : Json} (h : Plain n v) : ∃ cs, Spells n (.value v) cs := by
  have hblanks : Blanks [] := nofun
  induction h with
  | null => exact ⟨_, .literal (List.mem_cons_self ..)⟩
  | bool b =>
    have hb : ∃ cs, (cs, Json.bool b) ∈ literals := by
      cases b
      · exact ⟨"false".toList, by simp [literals]⟩
      · exact ⟨"true".toList, by simp [literals]⟩
    obtain ⟨cs, hcs⟩ := hb
    exact ⟨cs, .literal hcs⟩
  | integer h =>
    obtain ⟨cs, hcs⟩ := exists_numberSpelling h
    exact ⟨cs, .number hcs⟩
  | string t =>
    obtain ⟨cs, hcs⟩ := exists_stringSpelling t
    exact ⟨_, .string hcs⟩
  | @array n vs _ ih =>
    by_cases hvs : vs = []
    · subst hvs
      exact ⟨_, .emptyArray hblanks⟩
    · obtain ⟨cs, hcs⟩ := exists_items hvs ih
      exact ⟨_, .array hcs⟩
  | @object n members distinct names _ ih =>
    by_cases hmembers : members = []
    · subst hmembers
      exact ⟨_, .emptyObject hblanks⟩
    · obtain ⟨cs, hcs⟩ := exists_members hmembers distinct names ih
      exact ⟨_, .object hcs⟩

end CloudDetector.Json
