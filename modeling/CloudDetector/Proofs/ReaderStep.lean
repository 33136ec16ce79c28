import CloudDetector.Proofs.NestingDepth
import CloudDetector.Proofs.Spelling

namespace CloudDetector.Json

namespace Reader

/-- Between tokens blanks change nothing. -/
def Mode.PassesBlanks : Mode → Prop
  | .value | .firstItem | .firstName | .name _ | .colon _ _ | .closed _ => True
  | _ => False

/-- Where the name of a member is awaited, after these members. -/
def Mode.AwaitsName (mode : Mode) (members : List (Text × Json)) : Prop :=
  mode = .firstName ∧ members = [] ∨ mode = .name members

/-- A value is read to its end. That of a number shows only in what follows. -/
def Completed (v : Json) (mode : Mode) : Prop :=
  mode = .closed v ∨ ∃ spelling, mode = .number spelling ∧ number? spelling.reverse = some v

variable {room : Nat}

/-- All that one character can do to the reader. -/
inductive Next (room : Nat) : State → Char → State → Prop
  | blank {frames : List Frame} {mode : Mode} {c : Char} (h : mode.PassesBlanks)
      (hc : isBlank c = true) : Next room ⟨frames, mode⟩ c ⟨frames, mode⟩
  | string {frames : List Frame} {mode : Mode} (h : mode.awaitsValue = true) :
      Next room ⟨frames, mode⟩ '"' ⟨frames, .string .value [] .no⟩
  | array {frames : List Frame} {mode : Mode} (h : mode.awaitsValue = true)
      (fits : frames.length < room) :
      Next room ⟨frames, mode⟩ '[' ⟨.array [] :: frames, .firstItem⟩
  | object {frames : List Frame} {mode : Mode} (h : mode.awaitsValue = true)
      (fits : frames.length < room) : Next room ⟨frames, mode⟩ '{' ⟨frames, .firstName⟩
  | literal {frames : List Frame} {mode : Mode} {c next : Char} {left : List Char} {v : Json}
      (h : mode.awaitsValue = true) (hl : (c :: next :: left, v) ∈ literals) :
      Next room ⟨frames, mode⟩ c ⟨frames, .literal next left v⟩
  | number {frames : List Frame} {mode : Mode} {c : Char} (h : mode.awaitsValue = true)
      (hc : c = '-' ∨ c.isDigit = true) : Next room ⟨frames, mode⟩ c ⟨frames, .number [c]⟩
  | emptyArray {frames : List Frame} :
      Next room ⟨frames, .firstItem⟩ ']' ⟨frames.tail, .closed (.array [])⟩
  | emptyObject {frames : List Frame} :
      Next room ⟨frames, .firstName⟩ '}' ⟨frames, .closed (.object [])⟩
  | name {frames : List Frame} {mode : Mode} {members : List (Text × Json)}
      (h : mode.AwaitsName members) :
      Next room ⟨frames, mode⟩ '"' ⟨frames, .string (.name members) [] .no⟩
  | colon {frames : List Frame} {members : List (Text × Json)} {name : Text} :
      Next room ⟨frames, .colon members name⟩ ':' ⟨.object members name :: frames, .value⟩
  | letter {frames : List Frame} {c next : Char} {left : List Char} {v : Json} :
      Next room ⟨frames, .literal c (next :: left) v⟩ c ⟨frames, .literal next left v⟩
  | lastLetter {frames : List Frame} {c : Char} {v : Json} :
      Next room ⟨frames, .literal c [] v⟩ c ⟨frames, .closed v⟩
  | digit {frames : List Frame} {spelling : List Char} {c : Char} (hc : inNumber c = true) :
      Next room ⟨frames, .number spelling⟩ c ⟨frames, .number (c :: spelling)⟩
  | infinity {frames : List Frame} {next : Char} {left : List Char} {v : Json}
      (hl : ('-' :: 'I' :: next :: left, v) ∈ literals) :
      Next room ⟨frames, .number ['-']⟩ 'I' ⟨frames, .literal next left v⟩
  | afterNumber {frames : List Frame} {spelling : List Char} {v : Json} {c : Char}
      (h : number? spelling.reverse = some v) (hc : isBlank c = true) :
      Next room ⟨frames, .number spelling⟩ c ⟨frames, .closed v⟩
  | nextItem {frames : List Frame} {items : List Json} {mode : Mode} {v : Json}
      (h : Completed v mode) :
      Next room ⟨.array items :: frames, mode⟩ ',' ⟨.array (v :: items) :: frames, .value⟩
  | endArray {frames : List Frame} {items : List Json} {mode : Mode} {v : Json}
      (h : Completed v mode) :
      Next room ⟨.array items :: frames, mode⟩ ']' ⟨frames, .closed (.array (v :: items).reverse)⟩
  | nextMember {frames : List Frame} {members : List (Text × Json)} {name : Text} {mode : Mode}
      {v : Json} (h : Completed v mode) :
      Next room ⟨.object members name :: frames, mode⟩ ',' ⟨frames, .name (putEntry name v members)⟩
  | endObject {frames : List Frame} {members : List (Text × Json)} {name : Text} {mode : Mode}
      {v : Json} (h : Completed v mode) : Next room ⟨.object members name :: frames, mode⟩ '}'
        ⟨frames, .closed (.object (putEntry name v members))⟩
  | endString {frames : List Frame} {use : Use} {taken : List Piece} :
      Next room ⟨frames, .string use taken .no⟩ '"' (Reader.endString frames taken use)
  | inString {frames : List Frame} {use : Use} {taken taken' : List Piece}
      {escape escape' : Escape} {c : Char}
      (h : Reader.inString frames use taken escape c = .ok ⟨frames, .string use taken' escape'⟩) :
      Next room ⟨frames, .string use taken escape⟩ c ⟨frames, .string use taken' escape'⟩

theorem next_of_begin {frames : List Frame} {mode : Mode} {c : Char} {s' : State}
    (hm : mode.awaitsValue = true) (h : begin room frames c = .ok s') : Next room ⟨frames, mode⟩ c s' := by
  unfold begin at h
  split at h
  case h_1 =>
    cases h
    exact .string hm
  case h_2 =>
    unfold enter at h
    split at h
    · cases h
      exact .array hm (by assumption)
    · cases h
  case h_3 =>
    unfold enter at h
    split at h
    · cases h
      exact .object hm (by assumption)
    · cases h
  case h_9 =>
    split at h
    · rename_i hc
      cases h
      exact .number hm (by simpa using hc)
    · cases h
  all_goals
    cases h
    exact .literal hm (by simp [literals])

theorem next_of_follow {frames : List Frame} {mode : Mode} {v : Json} {c : Char} {s' : State}
    (hv : Completed v mode) (h : follow frames v c = .ok s') : Next room ⟨frames, mode⟩ c s' := by
  unfold follow at h
  split at h
  · rename_i hc
    cases h
    rcases hv with rfl | ⟨spelling, rfl, hv⟩
    · exact .blank trivial hc
    · exact .afterNumber hv hc
  · split at h
    · cases h
      exact .nextItem hv
    · cases h
      exact .endArray hv
    · cases h
      exact .nextMember hv
    · cases h
      exact .endObject hv
    · cases h

theorem next_of_inString {frames : List Frame} {use : Use} {taken : List Piece}
    {escape : Escape} {c : Char} {s' : State}
    (h : inString frames use taken escape c = .ok s') :
    Next room ⟨frames, .string use taken escape⟩ c s' := by
  have h' := h
  unfold inString at h'
  split at h'
  · split at h'
    · rename_i hc
      cases h'
      subst hc
      exact .endString
    · repeat' split at h'
      all_goals cases h'
      all_goals exact .inString h
  · repeat' split at h'
    all_goals cases h'
    all_goals exact .inString h
  · split at h'
    all_goals cases h'
    all_goals exact .inString h

/-- Whatever a character does is one of these moves. -/
theorem next_of_step {s s' : State} {c : Char} (h : step room s c = .ok s') : Next room s c s' := by
  obtain ⟨frames, mode⟩ := s
  cases mode with
  | value =>
    simp only [step] at h
    split at h
    · cases h
      exact .blank trivial ‹_›
    · exact next_of_begin rfl h
  | firstItem =>
    simp only [step] at h
    split at h
    · cases h
      exact .blank trivial ‹_›
    · split at h
      · rename_i hc
        cases h
        subst hc
        exact .emptyArray
      · exact next_of_begin rfl h
  | firstName =>
    simp only [step] at h
    split at h
    · cases h
      exact .blank trivial ‹_›
    · split at h
      · rename_i hc
        cases h
        subst hc
        exact .emptyObject
      · split at h
        · rename_i hc
          cases h
          subst hc
          exact .name (.inl ⟨rfl, rfl⟩)
        · cases h
  | name members =>
    simp only [step] at h
    split at h
    · cases h
      exact .blank trivial ‹_›
    · split at h
      · rename_i hc
        cases h
        subst hc
        exact .name (.inr rfl)
      · cases h
  | colon members name =>
    simp only [step, separate] at h
    split at h
    · cases h
      exact .blank trivial ‹_›
    · split at h
      · rename_i hc
        cases h
        subst hc
        exact .colon
      · cases h
  | closed v => exact next_of_follow (.inl rfl) h
  | literal next left v =>
    simp only [step] at h
    split at h
    · rename_i hc
      subst hc
      cases left with
      | nil =>
        cases h
        exact .lastLetter
      | cons next left =>
        cases h
        exact .letter
    · cases h
  | number spelling =>
    simp only [step] at h
    split at h
    · rename_i hc
      cases h
      exact .digit hc
    · split at h
      · rename_i hc
        cases h
        obtain ⟨rfl, rfl⟩ := hc
        exact .infinity (by simp [literals])
      · split at h
        · rename_i v hv
          exact next_of_follow (.inr ⟨spelling, rfl, hv⟩) h
        · cases h
  | string use taken escape => exact next_of_inString h

/-- What every move keeps of the reader a run keeps, and what it shows of the character each one
has. -/
theorem run_keeps {P : State → Prop} {Q : Char → Prop}
    (hnext : ∀ {s s' c}, Next room s c s' → P s → P s' ∧ Q c) {s s' : State} {cs : List Char}
    (h : run room s cs = .ok s') (hs : P s) : P s' ∧ ∀ c ∈ cs, Q c := by
  induction cs generalizing s with
  | nil =>
    cases h
    exact ⟨hs, nofun⟩
  | cons c cs ih =>
    rw [run_cons] at h
    split at h
    · rename_i next hstep
      obtain ⟨hnow, hc⟩ := hnext (next_of_step hstep) hs
      obtain ⟨hlater, hcs⟩ := ih h hnow
      exact ⟨hlater, List.forall_mem_cons.mpr ⟨hc, hcs⟩⟩
    · cases h

end Reader

end CloudDetector.Json
