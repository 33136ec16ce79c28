import CloudDetector.Json.Reader

namespace CloudDetector.Json

/-- The character that opens a container. -/
def Container.opening : Container → Char
  | .array => '['
  | .object => '{'

namespace Reader

variable {room : Nat}

/-- A value may begin here. -/
def Mode.awaitsValue : Mode → Bool
  | .value | .firstItem => true
  | _ => false

theorem enter_too_deep {frames : List Frame} {c k : Container} {s : State} :
    enter room frames c s = .error (.tooDeep k) ↔ c = k ∧ room ≤ frames.length := by
  unfold enter
  split
  · rename_i h
    exact iff_of_false nofun (fun hk => Nat.not_lt.mpr hk.2 h)
  · rename_i h
    simp only [Except.error.injEq, ReadError.tooDeep.injEq, Nat.not_lt.mp h, and_true]

theorem begin_too_deep {frames : List Frame} {c : Char} {k : Container} :
    begin room frames c = .error (.tooDeep k) ↔ c = k.opening ∧ room ≤ frames.length := by
  unfold begin
  split
  case h_2 => rw [enter_too_deep]; cases k <;> simp [Container.opening]
  case h_3 => rw [enter_too_deep]; cases k <;> simp [Container.opening]
  case h_9 _ _ ha ho _ _ _ _ _ =>
    have hc : c ≠ k.opening := by
      cases k with
      | array => exact ha
      | object => exact ho
    split
    · exact iff_of_false nofun (fun h => hc h.1)
    · exact iff_of_false nofun (fun h => hc h.1)
  all_goals cases k <;> exact iff_of_false nofun (fun h => absurd h.1 (by decide))

theorem follow_not_too_deep (frames : List Frame) (v : Json) (c : Char) (k : Container) :
    follow frames v c ≠ .error (.tooDeep k) := by
  unfold follow
  split
  · nofun
  · split <;> nofun

theorem in_string_not_too_deep (frames : List Frame) (use : Use) (taken : List Piece)
    (escape : Escape) (c : Char) (k : Container) :
    inString frames use taken escape c ≠ .error (.tooDeep k) := by
  unfold inString
  repeat' split
  all_goals nofun

theorem opening_not_blank (k : Container) : isBlank k.opening = false := by
  cases k <;> decide

/-- Only a container that opens can be too deep. -/
theorem step_too_deep {s : State} {c : Char} {k : Container} :
    step room s c = .error (.tooDeep k) ↔
      s.mode.awaitsValue = true ∧ c = k.opening ∧ room ≤ s.frames.length := by
  obtain ⟨frames, mode⟩ := s
  have hblank : c = k.opening → ¬isBlank c = true := by
    intro hc
    simp [hc, opening_not_blank]
  cases mode with
  | value =>
    simp only [step, Mode.awaitsValue, true_and]
    split
    · rename_i hb
      exact iff_of_false nofun (fun h => hblank h.1 hb)
    · exact begin_too_deep
  | firstItem =>
    simp only [step, Mode.awaitsValue, true_and]
    split
    · rename_i hb
      exact iff_of_false nofun (fun h => hblank h.1 hb)
    · split
      · rename_i hc
        refine iff_of_false nofun (fun h => ?_)
        rw [h.1] at hc
        cases k <;> exact absurd hc (by decide)
      · exact begin_too_deep
  | string use taken escape =>
    exact iff_of_false (in_string_not_too_deep frames use taken escape c k) nofun
  | closed v => exact iff_of_false (follow_not_too_deep frames v c k) nofun
  | number spelling =>
    refine iff_of_false ?_ nofun
    simp only [step]
    repeat' split
    all_goals first | exact follow_not_too_deep frames _ c k | nofun
  | colon members name =>
    refine iff_of_false ?_ nofun
    simp only [step, separate]
    repeat' split
    all_goals nofun
  | firstName | name members | literal next left v =>
    refine iff_of_false ?_ nofun
    simp only [step]
    repeat' split
    all_goals nofun

/-- A surrogate opens nothing. -/
theorem stepPoint_too_deep {s : State} {c : CodePoint} {k : Container} :
    stepPoint room s c = .error (.tooDeep k) ↔ s.mode.awaitsValue = true ∧
      c = CodePoint.ofChar k.opening ∧ room ≤ s.frames.length := by
  unfold stepPoint
  split
  · rename_i d hd
    rw [CodePoint.char?_eq_some_iff.mp hd, CodePoint.ofChar_inj]
    exact step_too_deep
  · rename_i hnone
    refine iff_of_false ?_ ?_
    · unfold stepSurrogate
      split <;> nofun
    · rintro ⟨_, rfl, _⟩
      rw [CodePoint.char?_ofChar] at hnone
      cases hnone

/-- Reading goes too deep exactly where some container opens on top of as many as may be open. -/
theorem runText_too_deep {s : State} {t : Text} {k : Container} :
    runText room s t = .error (.tooDeep k) ↔ ∃ before rest now,
      t = before ++ CodePoint.ofChar k.opening :: rest ∧ runText room s before = .ok now ∧
      now.mode.awaitsValue = true ∧ room ≤ now.frames.length := by
  constructor
  · intro h
    induction t generalizing s with
    | nil => cases h
    | cons c t ih =>
      rw [runText] at h
      split at h
      · rename_i next hstep
        obtain ⟨before, rest, now, rfl, hrun, hnow⟩ := ih h
        refine ⟨c :: before, rest, now, rfl, ?_, hnow⟩
        rw [runText, hstep]
        exact hrun
      · rename_i e hstep
        cases h
        obtain ⟨hmode, rfl, hdepth⟩ := stepPoint_too_deep.mp hstep
        exact ⟨[], t, s, rfl, rfl, hmode, hdepth⟩
  · intro h
    obtain ⟨before, rest, now, rfl, hrun, hmode, hdepth⟩ := h
    rw [runText_append, hrun]
    simp only [runText, stepPoint_too_deep.mpr ⟨hmode, rfl, hdepth⟩]

theorem finish_not_too_deep (s : State) (k : Container) : finish s ≠ .error (.tooDeep k) := by
  unfold finish
  repeat' split
  all_goals nofun

theorem step_bracket (frames : List Frame) {mode : Mode} (h : mode.awaitsValue = true) :
    step room ⟨frames, mode⟩ '[' = enter room frames .array ⟨.array [] :: frames, .firstItem⟩ := by
  cases mode with
  | value | firstItem => rfl
  | _ => cases h

/-- Brackets that open one after another are all open. -/
theorem run_brackets {n : Nat} (h : n ≤ room) :
    ∃ mode, run room start (List.replicate n '[') = .ok ⟨List.replicate n (.array []), mode⟩ ∧
      mode.awaitsValue = true := by
  induction n with
  | zero => exact ⟨.value, rfl, rfl⟩
  | succ n ih =>
    obtain ⟨mode, hrun, hmode⟩ := ih (Nat.le_of_succ_le h)
    have hlt : (List.replicate n (Frame.array [])).length < room := by
      rw [List.length_replicate]
      exact h
    refine ⟨.firstItem, ?_, rfl⟩
    rw [List.replicate_succ', run_append, hrun]
    simp only [run_cons, step_bracket _ hmode, enter, if_pos hlt]
    rfl

end Reader

/-- Some container opens in the text on top of as many as may be open at once. -/
def OpensTooDeep (room : Nat) (t : Text) (k : Container) : Prop :=
  ∃ before rest now, t = before ++ CodePoint.ofChar k.opening :: rest ∧
    Reader.runText room Reader.start before = .ok now ∧ now.mode.awaitsValue = true ∧
    room ≤ now.frames.length

theorem read_too_deep {room : Nat} {t : Text} {k : Container} :
    readText t room = .error (.tooDeep k) ↔ OpensTooDeep room t k := by
  rw [OpensTooDeep, ← Reader.runText_too_deep, readText]
  split
  · rename_i s hrun
    rw [hrun]
    exact iff_of_false (Reader.finish_not_too_deep s k) nofun
  · rename_i e hrun
    rw [hrun, Except.error.injEq, Except.error.injEq]

theorem brackets_too_deep {room n : Nat} (h : room < n) :
    OpensTooDeep room (Text.ofChars (List.replicate n '[')) .array := by
  obtain ⟨mode, hrun, hmode⟩ := Reader.run_brackets (Nat.le_refl room)
  have hn : n = room + (n - room - 1 + 1) := by omega
  refine ⟨Text.ofChars (List.replicate room '['), Text.ofChars (List.replicate (n - room - 1) '['),
    ⟨List.replicate room (.array []), mode⟩, ?_, hrun, hmode, ?_⟩
  · calc Text.ofChars (List.replicate n '[')
        = Text.ofChars (List.replicate (room + (n - room - 1 + 1)) '[') :=
          congrArg (fun m => Text.ofChars (List.replicate m '[')) hn
      _ = _ := by
          rw [← List.replicate_append_replicate, List.replicate_succ, Text.ofChars, List.map_append]
          rfl
  · exact Nat.le_of_eq List.length_replicate.symm

end CloudDetector.Json
