import CloudDetector.Proofs.SpellingRead

namespace CloudDetector.Json

namespace Reader

/-- A value, from wherever one is awaited, with room for its containers. -/
def ReadsValue (room depth : Nat) (v : Json) (cs : List Char) : Prop :=
  ∀ frames (mode : Mode), mode.awaitsValue = true → frames.length + depth ≤ room →
    ∃ done, run room ⟨frames, mode⟩ cs = .ok ⟨frames, done⟩ ∧ Completed v done

/-- The items of an array that was just opened. The last of them is not put away yet. -/
def ReadsItems (room depth : Nat) (vs : List Json) (cs : List Char) : Prop :=
  ∀ frames : List Frame, frames.length + 1 + depth ≤ room → ∃ earlier last done,
    vs = earlier ++ [last] ∧ Completed last done ∧
    run room ⟨.array [] :: frames, .firstItem⟩ cs = .ok ⟨.array earlier.reverse :: frames, done⟩

def ReadsMember (room depth : Nat) (name : Text) (v : Json) (cs : List Char) : Prop :=
  ∀ frames (mode : Mode) members, mode.AwaitsName members → frames.length + 1 + depth ≤ room →
    ∃ done, Completed v done ∧
      run room ⟨frames, mode⟩ cs = .ok ⟨.object members name :: frames, done⟩

/-- The members of an object that was just opened. The last of them is not put away yet. -/
def ReadsMembers (room depth : Nat) (ms : List (Text × Json)) (cs : List Char) : Prop :=
  ∀ frames : List Frame, frames.length + 1 + depth ≤ room → ∃ earlier name last done,
    ms = putEntry name last earlier ∧ Completed last done ∧
    run room ⟨frames, .firstName⟩ cs = .ok ⟨.object earlier name :: frames, done⟩

/-- What the reader makes of a phrase. -/
def Reads (room depth : Nat) : Phrase → List Char → Prop
  | .value v | .element v => ReadsValue room depth v
  | .items vs => ReadsItems room depth vs
  | .member name v => ReadsMember room depth name v
  | .members ms => ReadsMembers room depth ms

variable {room : Nat}

/-- A bracket or a brace, where there is room for what it opens. -/
theorem step_opening {mode : Mode} (hmode : mode.awaitsValue = true) {frames : List Frame}
    {depth : Nat} (hroom : frames.length + (depth + 1) ≤ room) :
    step room ⟨frames, mode⟩ '[' = .ok ⟨.array [] :: frames, .firstItem⟩ ∧
      step room ⟨frames, mode⟩ '{' = .ok ⟨frames, .firstName⟩ := by
  have hlt : frames.length < room := by omega
  rw [step_awaiting hmode frames rfl (by decide), step_awaiting hmode frames rfl (by decide)]
  exact ⟨if_pos hlt, if_pos hlt⟩

theorem reads_string {depth : Nat} {t cs : List Char} (h : StringSpelling t cs) :
    ReadsValue room depth (.string (Text.ofChars t)) ('"' :: (cs ++ ['"'])) := by
  intro frames mode hmode _
  refine ⟨.closed (.string (Text.ofChars t)), ?_, .inl rfl⟩
  rw [run_cons_of_ok (step_awaiting hmode frames rfl (by decide))]
  exact run_quoted h frames .value

theorem reads_emptyArray {depth : Nat} {cs : List Char} (h : Blanks cs) :
    ReadsValue room (depth + 1) (.array []) ('[' :: (cs ++ [']'])) := by
  intro frames mode hmode hroom
  refine ⟨.closed (.array []), ?_, .inl rfl⟩
  rw [run_cons_of_ok (step_opening hmode hroom).1,
    run_append_of_ok (run_blanks .firstItem trivial _ h)]
  rfl

theorem reads_array {depth : Nat} {vs : List Json} {cs : List Char} (h : ReadsItems room depth vs cs) :
    ReadsValue room (depth + 1) (.array vs) ('[' :: (cs ++ [']'])) := by
  intro frames mode hmode hroom
  obtain ⟨earlier, last, done, rfl, hdone, hrun⟩ := h frames (by omega)
  have hend : Reader.step room ⟨.array earlier.reverse :: frames, done⟩ ']' =
      .ok ⟨frames, .closed (.array (last :: earlier.reverse).reverse)⟩ := hdone.step _ rfl
  rw [List.reverse_cons, List.reverse_reverse] at hend
  refine ⟨.closed (.array (earlier ++ [last])), ?_, .inl rfl⟩
  rw [run_cons_of_ok (step_opening hmode hroom).1, run_append_of_ok hrun, run_cons_of_ok hend]
  rfl

theorem reads_emptyObject {depth : Nat} {cs : List Char} (h : Blanks cs) :
    ReadsValue room (depth + 1) (.object []) ('{' :: (cs ++ ['}'])) := by
  intro frames mode hmode hroom
  refine ⟨.closed (.object []), ?_, .inl rfl⟩
  rw [run_cons_of_ok (step_opening hmode hroom).2,
    run_append_of_ok (run_blanks .firstName trivial _ h)]
  rfl

theorem reads_object {depth : Nat} {ms : List (Text × Json)} {cs : List Char}
    (h : ReadsMembers room depth ms cs) : ReadsValue room (depth + 1) (.object ms) ('{' :: (cs ++ ['}'])) := by
  intro frames mode hmode hroom
  obtain ⟨earlier, name, last, done, rfl, hdone, hrun⟩ := h frames (by omega)
  have hend : Reader.step room ⟨.object earlier name :: frames, done⟩ '}' =
      .ok ⟨frames, .closed (.object (putEntry name last earlier))⟩ := hdone.step _ rfl
  refine ⟨.closed (.object (putEntry name last earlier)), ?_, .inl rfl⟩
  rw [run_cons_of_ok (step_opening hmode hroom).2, run_append_of_ok hrun, run_cons_of_ok hend]
  rfl

theorem reads_element {depth : Nat} {v : Json} {before cs after : List Char} (hb : Blanks before)
    (h : ReadsValue room depth v cs) (ha : Blanks after) :
    ReadsValue room depth v (before ++ (cs ++ after)) := by
  intro frames mode hmode hroom
  obtain ⟨done, hrun, hdone⟩ := h frames mode hmode hroom
  obtain ⟨done', hrun', hdone'⟩ := hdone.run_blanks frames ha
  refine ⟨done', ?_, hdone'⟩
  rw [run_append_of_ok (run_blanks mode (Mode.awaitsValue.passesBlanks hmode) frames hb),
    run_append_of_ok hrun]
  exact hrun'

theorem reads_item {depth : Nat} {v : Json} {cs : List Char} (h : ReadsValue room depth v cs) :
    ReadsItems room depth [v] cs := by
  intro frames hroom
  obtain ⟨done, hrun, hdone⟩ := h (.array [] :: frames) .firstItem rfl hroom
  exact ⟨[], v, done, rfl, hdone, hrun⟩

theorem reads_nextItem {depth : Nat} {vs : List Json} {v : Json} {cs ds : List Char}
    (hs : ReadsItems room depth vs cs) (h : ReadsValue room depth v ds) :
    ReadsItems room depth (vs ++ [v]) (cs ++ ',' :: ds) := by
  intro frames hroom
  obtain ⟨earlier, last, done, rfl, hdone, hrun⟩ := hs frames hroom
  obtain ⟨done', hrun', hdone'⟩ := h (.array (last :: earlier.reverse) :: frames) .value rfl hroom
  have hcomma : Reader.step room ⟨.array earlier.reverse :: frames, done⟩ ',' =
      .ok ⟨.array (last :: earlier.reverse) :: frames, .value⟩ := hdone.step _ rfl
  refine ⟨earlier ++ [last], v, done', rfl, hdone', ?_⟩
  rw [run_append_of_ok hrun, run_cons_of_ok hcomma, List.reverse_append]
  exact hrun'

theorem Mode.AwaitsName.step {mode : Mode} {members : List (Text × Json)}
    (h : mode.AwaitsName members) (frames : List Frame) :
    Reader.step room ⟨frames, mode⟩ '"' = .ok ⟨frames, .string (.name members) [] .no⟩ := by
  rcases h with ⟨rfl, rfl⟩ | rfl <;> rfl

theorem reads_member {depth : Nat} {name : List Char} {v : Json} {before cs after ds : List Char}
    (hb : Blanks before) (hn : StringSpelling name cs) (ha : Blanks after)
    (h : ReadsValue room depth v ds) : ReadsMember room depth (Text.ofChars name) v
      (before ++ '"' :: (cs ++ '"' :: (after ++ ':' :: ds))) := by
  intro frames mode members hmode hroom
  obtain ⟨done, hrun, hdone⟩ :=
    h (.object members (Text.ofChars name) :: frames) .value rfl hroom
  have hpasses : mode.PassesBlanks := by
    rcases hmode with ⟨rfl, _⟩ | rfl <;> trivial
  have hcolon : Reader.step room ⟨frames, .colon members (Text.ofChars name)⟩ ':' =
      .ok ⟨.object members (Text.ofChars name) :: frames, .value⟩ := rfl
  refine ⟨done, hdone, ?_⟩
  rw [run_append_of_ok (run_blanks mode hpasses frames hb), run_cons_of_ok (hmode.step frames),
    List.append_cons, run_append_of_ok (run_quoted hn frames (.name members)),
    run_append_of_ok (run_blanks (.colon members _) trivial frames ha), run_cons_of_ok hcolon]
  exact hrun

theorem reads_firstMember {depth : Nat} {name : Text} {v : Json} {cs : List Char}
    (h : ReadsMember room depth name v cs) : ReadsMembers room depth [(name, v)] cs := by
  intro frames hroom
  obtain ⟨done, hdone, hrun⟩ := h frames .firstName [] (.inl ⟨rfl, rfl⟩) hroom
  exact ⟨[], name, v, done, rfl, hdone, hrun⟩

theorem reads_nextMember {depth : Nat} {ms : List (Text × Json)} {name : Text} {v : Json}
    {cs ds : List Char} (hs : ReadsMembers room depth ms cs) (h : ReadsMember room depth name v ds) :
    ReadsMembers room depth (putEntry name v ms) (cs ++ ',' :: ds) := by
  intro frames hroom
  obtain ⟨earlier, name', last, done, rfl, hdone, hrun⟩ := hs frames hroom
  obtain ⟨done', hdone', hrun'⟩ := h frames (.name (putEntry name' last earlier)) _ (.inr rfl) hroom
  have hcomma : Reader.step room ⟨.object earlier name' :: frames, done⟩ ',' =
      .ok ⟨frames, .name (putEntry name' last earlier)⟩ := hdone.step _ rfl
  refine ⟨putEntry name' last earlier, name, v, done', rfl, hdone', ?_⟩
  rw [run_append_of_ok hrun, run_cons_of_ok hcomma]
  exact hrun'

/-- The reader follows the spelling of every phrase. -/
theorem reads_of_spells {depth : Nat} {p : Phrase} {cs : List Char} (h : Spells depth p cs) :
    Reads room depth p cs := by
  induction h with
  | literal h => exact fun frames mode hmode _ => ⟨_, run_literal h hmode frames, .inl rfl⟩
  | number h => exact fun frames mode hmode _ => run_number h hmode frames
  | string h => exact reads_string h
  | emptyArray h => exact reads_emptyArray h
  | array _ ih => exact reads_array ih
  | emptyObject h => exact reads_emptyObject h
  | object _ ih => exact reads_object ih
  | element hb _ ha ih => exact reads_element hb ih ha
  | item _ ih => exact reads_item ih
  | nextItem _ _ ihs ih => exact reads_nextItem ihs ih
  | member hb hn ha _ ih => exact reads_member hb hn ha ih
  | firstMember _ ih => exact reads_firstMember ih
  | nextMember _ _ ihs ih => exact reads_nextMember ihs ih

theorem Completed.finish {v : Json} {mode : Mode} (h : Completed v mode) :
    Reader.finish ⟨[], mode⟩ = .ok v := by
  rcases h with rfl | ⟨spelling, rfl, hv⟩
  · rfl
  · simp only [Reader.finish, hv]

/-- Of an object it shows that it is read to its end, since no number is one. -/
theorem Completed.closed {members : List (Text × Json)} {mode : Mode}
    (h : Completed (.object members) mode) : mode = .closed (.object members) := by
  rcases h with h | ⟨spelling, _, hv⟩
  · exact h
  · obtain ⟨numeral, _, hv⟩ := Option.bind_eq_some_iff.mp hv
    unfold Numeral.value? at hv
    split at hv
    · split at hv <;> cases hv
    · cases hv

/-- A text that spells a value is read to the end, if it does not nest too deep. -/
theorem run_of_spells {depth : Nat} {v : Json} {cs : List Char} (h : Spells depth (.element v) cs)
    (hdepth : depth ≤ room) : ∃ done, run room start cs = .ok ⟨[], done⟩ ∧ Completed v done :=
  reads_of_spells h [] .value rfl (by rwa [List.length_nil, Nat.zero_add])

/-- The spelling of an object ends with its brace, and it shows. -/
theorem run_object {depth : Nat} {members : List (Text × Json)} {before cs : List Char}
    (hb : Blanks before) (h : Spells depth (.value (.object members)) cs)
    (hdepth : depth ≤ room) :
    run room start (before ++ cs) = .ok ⟨[], .closed (.object members)⟩ := by
  have hafter : Blanks [] := nofun
  obtain ⟨done, hrun, hdone⟩ := run_of_spells (.element hb h hafter) hdepth
  rw [List.append_nil] at hrun
  rw [hrun, hdone.closed]

end Reader

theorem read_of_spells {room depth : Nat} {v : Json} {cs : List Char}
    (h : Spells depth (.element v) cs) (hdepth : depth ≤ room) : read cs room = .ok v := by
  obtain ⟨done, hrun, hdone⟩ := Reader.run_of_spells h hdepth
  rw [read_eq, hrun]
  exact hdone.finish

end CloudDetector.Json
