import CloudDetector.Proofs.NumeralRead
import CloudDetector.Proofs.ReaderStep

namespace CloudDetector

theorem CodePoint.ofNat_toNat (c : Char) : CodePoint.ofNat c.toNat = CodePoint.ofChar c :=
  Fin.ext (Nat.mod_eq_of_lt (CodePoint.ofChar c).isLt)

/-- A character is no surrogate. -/
theorem CodePoint.char_not_low (c : Char) : (CodePoint.ofChar c).isLowSurrogate = false := by
  have hv := c.valid
  simp only [UInt32.isValidChar, Nat.isValidChar] at hv
  have hval : (CodePoint.ofChar c).val = c.val.toNat := rfl
  simp only [isLowSurrogate, hval, Bool.and_eq_false_iff, decide_eq_false_iff_not]
  omega

namespace Json.Reader

variable {room : Nat}

theorem run_cons_of_ok {s s' : State} {c : Char} (h : step room s c = .ok s') (cs : List Char) :
    run room s (c :: cs) = run room s' cs := by
  rw [run_cons, h]

theorem run_append_of_ok {s s' : State} {before : List Char} (h : run room s before = .ok s')
    (after : List Char) : run room s (before ++ after) = run room s' after := by
  rw [run_append, h]

/-! Strings -/

theorem hexDigit?_of_spelling {n : Nat} {c : Char} (h : HexSpelling n c) :
    hexDigit? c = some n := by
  have hsmall : ∀ i : Fin 16, hexDigit? ("0123456789abcdef".toList[i]) = some i.val := by decide
  have hcapital : ∀ i : Fin 16, hexDigit? ("0123456789ABCDEF".toList[i]) = some i.val := by decide
  rcases h with h | h
  · obtain ⟨hn, rfl⟩ := List.getElem?_eq_some_iff.mp h
    exact hsmall ⟨n, hn⟩
  · obtain ⟨hn, rfl⟩ := List.getElem?_eq_some_iff.mp h
    exact hcapital ⟨n, hn⟩

/-- A low surrogate apart, nothing joins what came before it. -/
theorem takeUnit_of_not_low {u : CodePoint} (h : u.isLowSurrogate = false) (taken : List Piece) :
    takeUnit u taken = .unit u :: taken := by
  unfold takeUnit
  split
  · rw [h, Bool.and_false, if_neg nofun]
  · rfl

theorem run_unit {n : Nat} {cs : List Char} (h : UnitSpelling n cs) (frames : List Frame)
    (use : Use) (taken : List Piece) : run room ⟨frames, .string use taken .no⟩ cs =
      .ok ⟨frames, .string use (takeUnit (.ofNat n) taken) .no⟩ := by
  cases h with
  | digits ha hb hc hd =>
    have hbackslash : ¬('\\' : Char) = '"' := by decide
    simp only [run_cons, step, inString, if_neg hbackslash, if_pos, hexDigit?_of_spelling ha,
      hexDigit?_of_spelling hb, hexDigit?_of_spelling hc, hexDigit?_of_spelling hd, Nat.mul_zero,
      Nat.zero_add]
    rfl

/-- A spelled character is taken in as one piece, whatever came before it. -/
theorem run_char {c : Char} {cs : List Char} (h : CharSpelling c cs) : ∃ piece : Piece,
    piece.codePoint = CodePoint.ofChar c ∧
    ∀ frames use taken, run room ⟨frames, .string use taken .no⟩ cs =
      .ok ⟨frames, .string use (piece :: taken) .no⟩ := by
  cases h with
  | raw h quote backslash =>
    refine ⟨.plain c, rfl, ?_⟩
    intro frames use taken
    simp only [run_cons, step, inString, if_neg quote, if_neg backslash,
      if_neg (Char.not_lt.mpr h)]
    rfl
  | @short letter _ h =>
    refine ⟨.plain c, rfl, ?_⟩
    intro frames use taken
    have hescape : ∀ e ∈ shortEscapes, e.1 ≠ 'u' ∧ unescape? e.1 = some e.2 := by decide
    obtain ⟨hu, hc⟩ := hescape _ h
    have hbackslash : ¬('\\' : Char) = '"' := by decide
    simp only [run_cons, step, inString, if_neg hbackslash, if_pos, if_neg hu, hc]
    rfl
  | unit h =>
    refine ⟨.unit c, rfl, ?_⟩
    intro frames use taken
    rw [run_unit h, CodePoint.ofNat_toNat, takeUnit_of_not_low (CodePoint.char_not_low c)]
  | @pair _ high low cs ds hh hl h hcs hds =>
    have hhigh : (CodePoint.ofNat high).val = high := Nat.mod_eq_of_lt (by omega)
    have hlow : (CodePoint.ofNat low).val = low := Nat.mod_eq_of_lt (by omega)
    refine ⟨.plain c, rfl, ?_⟩
    intro frames use taken
    have hnot : (CodePoint.ofNat high).isLowSurrogate = false := by
      simp only [CodePoint.isLowSurrogate, hhigh, Bool.and_eq_false_iff, decide_eq_false_iff_not]
      omega
    have hjoin : ((CodePoint.ofNat high).isHighSurrogate &&
        (CodePoint.ofNat low).isLowSurrogate) = true := by
      simp only [CodePoint.isHighSurrogate, CodePoint.isLowSurrogate, hhigh, hlow,
        Bool.and_eq_true, decide_eq_true_eq]
      exact ⟨hh, hl⟩
    rw [run_append_of_ok (run_unit hcs frames use taken), run_unit hds, takeUnit_of_not_low hnot,
      takeUnit, if_pos hjoin, hhigh, hlow, ← h, CodePoint.ofNat_toNat]

theorem run_string {t cs : List Char} (h : StringSpelling t cs) : ∃ pieces : List Piece,
    pieces.map Piece.codePoint = Text.ofChars t ∧
    ∀ frames use taken, run room ⟨frames, .string use taken .no⟩ cs =
      .ok ⟨frames, .string use (pieces.reverse ++ taken) .no⟩ := by
  induction h with
  | nil => exact ⟨[], rfl, fun _ _ _ => rfl⟩
  | cons hc ht ih =>
    obtain ⟨piece, hpoint, hrun⟩ := run_char hc
    obtain ⟨pieces, hpoints, hrun'⟩ := ih
    refine ⟨piece :: pieces, ?_, ?_⟩
    · rw [List.map_cons, hpoint, hpoints]
      rfl
    · intro frames use taken
      rw [run_append_of_ok (hrun frames use taken), List.reverse_cons, List.append_assoc]
      exact hrun' frames use _

/-- A string between quotes is read from its first character on. -/
theorem run_quoted {t cs : List Char} (h : StringSpelling t cs) (frames : List Frame) (use : Use) :
    run room ⟨frames, .string use [] .no⟩ (cs ++ ['"']) =
      .ok (match use with
        | .value => ⟨frames, .closed (.string (Text.ofChars t))⟩
        | .name members => ⟨frames, .colon members (Text.ofChars t)⟩) := by
  obtain ⟨pieces, hpoints, hrun⟩ := run_string h
  have hclose : closeString pieces.reverse = Text.ofChars t := by
    rw [closeString, List.reverse_reverse]
    exact hpoints
  have hquote : step room ⟨frames, .string use pieces.reverse .no⟩ '"' =
      .ok (endString frames pieces.reverse use) := rfl
  rw [run_append_of_ok (hrun frames use []), List.append_nil, run_cons_of_ok hquote]
  cases use with
  | value => rw [endString, hclose]; rfl
  | name members => rw [endString, hclose]; rfl

/-! Blanks, numbers and literals -/

theorem isBlank_iff {c : Char} : isBlank c = true ↔ c ∈ [' ', '\t', '\n', '\r'] := by
  simp [isBlank, or_assoc]

theorem follow_blank (frames : List Frame) (v : Json) {c : Char} (h : isBlank c = true) :
    follow frames v c = .ok ⟨frames, .closed v⟩ := by
  unfold follow
  exact if_pos h

theorem step_blank {mode : Mode} (hm : mode.PassesBlanks) (frames : List Frame) {c : Char}
    (hc : isBlank c = true) : step room ⟨frames, mode⟩ c = .ok ⟨frames, mode⟩ := by
  cases mode with
  | value | firstItem | firstName | name members => simp only [step, hc, if_pos]
  | colon members name => simp only [step, separate, hc, if_pos]
  | closed v => exact follow_blank frames v hc
  | _ => exact hm.elim

theorem run_blanks (mode : Mode) (hm : mode.PassesBlanks) (frames : List Frame) {cs : List Char}
    (h : Blanks cs) : run room ⟨frames, mode⟩ cs = .ok ⟨frames, mode⟩ := by
  induction cs with
  | nil => rfl
  | cons c cs ih =>
    obtain ⟨hc, hcs⟩ := List.forall_mem_cons.mp h
    rw [run_cons_of_ok (step_blank hm frames (isBlank_iff.mpr hc))]
    exact ih hcs

theorem Mode.awaitsValue.passesBlanks {mode : Mode} (h : mode.awaitsValue = true) :
    mode.PassesBlanks := by
  cases mode with
  | value | firstItem => trivial
  | _ => cases h

/-- Where a value is awaited any character begins one, unless it is a blank or ends the array. -/
theorem step_awaiting {mode : Mode} (h : mode.awaitsValue = true) (frames : List Frame) {c : Char}
    (hblank : isBlank c = false) (hend : c ≠ ']') : step room ⟨frames, mode⟩ c = begin room frames c := by
  cases mode with
  | value => simp only [step, hblank, Bool.false_eq_true, if_false]
  | firstItem => simp only [step, hblank, Bool.false_eq_true, if_false, if_neg hend]
  | _ => cases h

theorem Completed.step {v : Json} {mode : Mode} (h : Completed v mode) (frames : List Frame)
    {c : Char} (hc : inNumber c = false) : step room ⟨frames, mode⟩ c = follow frames v c := by
  rcases h with rfl | ⟨spelling, rfl, hv⟩
  · rfl
  · have hsign : spelling ≠ ['-'] := by
      rintro rfl
      cases hv
    simp only [Reader.step, hc, Bool.false_eq_true, if_false, hsign, false_and, hv]

theorem Completed.run_blanks {v : Json} {mode : Mode} (h : Completed v mode) (frames : List Frame)
    {cs : List Char} (hcs : Blanks cs) :
    ∃ done, run room ⟨frames, mode⟩ cs = .ok ⟨frames, done⟩ ∧ Completed v done := by
  cases cs with
  | nil => exact ⟨mode, rfl, h⟩
  | cons c cs =>
    obtain ⟨hc, hcs⟩ := List.forall_mem_cons.mp hcs
    have hnumber : inNumber c = false := by
      simp only [List.mem_cons, List.not_mem_nil, or_false] at hc
      rcases hc with rfl | rfl | rfl | rfl <;> rfl
    have hstep : Reader.step room ⟨frames, mode⟩ c = follow frames v c := h.step frames hnumber
    rw [follow_blank frames v (isBlank_iff.mpr hc)] at hstep
    refine ⟨.closed v, ?_, .inl rfl⟩
    rw [run_cons_of_ok hstep]
    exact Reader.run_blanks (.closed v) trivial frames hcs

theorem run_inNumber {cs : List Char} (h : ∀ c ∈ cs, inNumber c = true) (frames : List Frame)
    (spelling : List Char) :
    run room ⟨frames, .number spelling⟩ cs = .ok ⟨frames, .number (cs.reverse ++ spelling)⟩ := by
  induction cs generalizing spelling with
  | nil => rfl
  | cons c cs ih =>
    obtain ⟨hc, hcs⟩ := List.forall_mem_cons.mp h
    have hstep : step room ⟨frames, .number spelling⟩ c = .ok ⟨frames, .number (c :: spelling)⟩ := by
      simp only [step, hc, if_pos]
    rw [run_cons_of_ok hstep, List.reverse_cons, List.append_assoc]
    exact ih hcs (c :: spelling)

theorem step_number {mode : Mode} (hmode : mode.awaitsValue = true) (frames : List Frame)
    {c : Char} (h : c = '-' ∨ c.isDigit = true) :
    step room ⟨frames, mode⟩ c = .ok ⟨frames, .number [c]⟩ := by
  rcases h with rfl | h
  · exact step_awaiting hmode frames rfl (by decide)
  · have hne : ∀ d : Char, d.isDigit = false → c ≠ d := by
      rintro d hd rfl
      rw [hd] at h
      cases h
    have hblank : isBlank c = false := by
      simp only [isBlank, decide_eq_false (hne ' ' rfl), decide_eq_false (hne '\t' rfl),
        decide_eq_false (hne '\n' rfl), decide_eq_false (hne '\r' rfl), Bool.or_self]
    rw [step_awaiting hmode frames hblank (hne ']' rfl)]
    unfold begin
    split
    case h_9 => simp only [h, Bool.or_true, if_pos]
    all_goals cases h

theorem run_number {v : Json} {cs : List Char} (h : NumberSpelling v cs) {mode : Mode}
    (hmode : mode.awaitsValue = true) (frames : List Frame) :
    ∃ done, run room ⟨frames, mode⟩ cs = .ok ⟨frames, done⟩ ∧ Completed v done := by
  have hv := number?_of_spelling h
  obtain ⟨c, rest, rfl, hc, hrest⟩ := h.shape
  refine ⟨.number (rest.reverse ++ [c]), ?_, .inr ⟨_, rfl, ?_⟩⟩
  · rw [run_cons_of_ok (step_number hmode frames hc)]
    exact run_inNumber hrest frames [c]
  · rw [List.reverse_append, List.reverse_reverse]
    exact hv

theorem run_literal {v : Json} {cs : List Char} (h : (cs, v) ∈ literals) {mode : Mode}
    (hmode : mode.awaitsValue = true) (frames : List Frame) :
    run room ⟨frames, mode⟩ cs = .ok ⟨frames, .closed v⟩ := by
  simp only [literals, List.mem_cons, List.not_mem_nil, or_false, Prod.mk.injEq] at h
  cases mode with
  | value | firstItem =>
    rcases h with ⟨rfl, rfl⟩ | ⟨rfl, rfl⟩ | ⟨rfl, rfl⟩ | ⟨rfl, rfl⟩ | ⟨rfl, rfl⟩ | ⟨rfl, rfl⟩ <;> rfl
  | _ => cases hmode

end Json.Reader
end CloudDetector
