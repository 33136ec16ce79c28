import CloudDetector.Proofs.DocumentRead
import CloudDetector.Proofs.Utf8Encoded

namespace CloudDetector.Json

namespace Reader

variable {room : Nat}

/-- What is left of a literal is its end. -/
def Mode.Lettered : Mode → Prop
  | .literal next left v => ∃ before, (before ++ next :: left, v) ∈ literals
  | _ => True

theorem endString_lettered (frames : List Frame) (use : Use) (taken : List Piece) :
    (endString frames taken use).mode.Lettered := by
  cases use <;> trivial

theorem lettered_next {s s' : State} {c : Char} (h : Next room s c s') (hs : s.mode.Lettered) :
    s'.mode.Lettered := by
  cases h with
  | blank _ _ => exact hs
  | @literal _ _ c _ _ _ _ hl => exact ⟨[c], hl⟩
  | infinity hl => exact ⟨['-', 'I'], hl⟩
  | @letter _ c _ _ _ =>
    obtain ⟨before, hl⟩ := hs
    exact ⟨before ++ [c], by rwa [List.append_assoc]⟩
  | endString => exact endString_lettered _ _ _
  | _ => trivial

theorem literal_plain {cs : List Char} {v : Json} (h : (cs, v) ∈ literals) {c : Char}
    (hc : c ∈ cs) : c ≠ '}' ∧ c ≠ Encoding.replacement := by
  have hplain : literals.all (fun e => e.1.all (fun c => c != '}' && c != Encoding.replacement)) =
      true := by decide
  have hcs := List.all_eq_true.mp hplain _ h
  simpa using List.all_eq_true.mp hcs c hc

theorem Mode.Lettered.next_plain {next : Char} {left : List Char} {v : Json}
    (h : (Mode.literal next left v).Lettered) : next ≠ '}' ∧ next ≠ Encoding.replacement := by
  obtain ⟨before, hl⟩ := h
  exact literal_plain hl (by simp)

/-- No container is open, and a value has begun that opens none. -/
structure Outside (s : State) : Prop where
  frames : s.frames = []
  mode : match s.mode with
    | .closed _ | .number _ | .literal _ _ _ => True
    | _ => False

theorem Outside.not_awaiting {s : State} (h : Outside s) : ¬s.mode.awaitsValue = true := by
  obtain ⟨frames, mode⟩ := s
  intro hm
  cases mode with
  | value | firstItem => exact h.mode
  | _ => cases hm

/-- From there on nothing opens, so no brace closes anything. -/
theorem outside_next {s s' : State} {c : Char} (h : Next room s c s')
    (hs : Outside s ∧ s.mode.Lettered) : (Outside s' ∧ s'.mode.Lettered) ∧ c ≠ '}' := by
  obtain ⟨hout, hletters⟩ := hs
  refine ⟨⟨?_, lettered_next h hletters⟩, ?_⟩
  · obtain ⟨hframes, hmode⟩ := hout
    cases h with
    | string h | array h _ | object h _ | literal h _ | number h _ =>
      exact absurd h (Outside.not_awaiting ⟨hframes, hmode⟩)
    | nextItem _ | endArray _ | nextMember _ | endObject _ => cases hframes
    | emptyArray | emptyObject | colon | endString | inString _ => exact hmode.elim
    | name h => rcases h with ⟨rfl, _⟩ | rfl <;> exact hmode.elim
    | blank _ _ => exact ⟨hframes, hmode⟩
    | letter | lastLetter | digit _ | infinity _ | afterNumber _ _ => exact ⟨hframes, trivial⟩
  · rintro rfl
    cases h with
    | blank _ hc | digit hc | afterNumber _ hc => cases hc
    | literal h _ | number h _ => exact hout.not_awaiting h
    | letter | lastLetter => exact hletters.next_plain.1 rfl
    | emptyObject | inString _ => exact hout.mode
    | endObject _ => cases hout.frames

/-- Where a text may end, its value is read to the end and nothing is open. -/
theorem finish_eq_ok {s : State} {v : Json} :
    finish s = .ok v ↔ s.frames = [] ∧ Completed v s.mode := by
  obtain ⟨frames, mode⟩ := s
  constructor
  · intro h
    unfold finish at h
    split at h
    · rename_i hframes hmode
      cases h
      exact ⟨hframes, .inl hmode⟩
    · rename_i hframes hmode
      split at h
      · rename_i hv
        cases h
        exact ⟨hframes, .inr ⟨_, hmode, hv⟩⟩
      · cases h
    · cases h
  · rintro ⟨hframes, h⟩
    obtain rfl : frames = [] := hframes
    exact h.finish

theorem finish_malformed {s : State} (h : ∀ v, s.frames = [] → ¬Completed v s.mode) :
    finish s = .error .malformed := by
  cases hf : finish s with
  | ok v =>
    obtain ⟨hframes, hdone⟩ := finish_eq_ok.mp hf
    exact absurd hdone (h v hframes)
  | error e =>
    cases e with
    | malformed => rfl
    | tooDeep k => exact absurd hf (finish_not_too_deep s k)

theorem Completed.outside {v : Json} {s : State} (h : Completed v s.mode) (hframes : s.frames = []) :
    Outside s ∧ s.mode.Lettered := by
  obtain ⟨frames, mode⟩ := s
  rcases h with rfl | ⟨spelling, rfl, _⟩ <;> exact ⟨⟨hframes, trivial⟩, trivial⟩

/-- A replacement can only stand in a string. -/
theorem replacement_next {s s' : State} (h : Next room s Encoding.replacement s')
    (hs : s.mode.Lettered) : ∃ use taken escape, s'.mode = .string use taken escape := by
  generalize hc : Encoding.replacement = c at h
  cases h with
  | inString _ => exact ⟨_, _, _, rfl⟩
  | letter | lastLetter => exact absurd hc.symm hs.next_plain.2
  | literal _ hl => exact absurd hc.symm (literal_plain hl List.mem_cons_self).2
  | number _ h =>
    subst hc
    exact absurd h (by decide)
  | blank _ h | digit h | afterNumber _ h =>
    subst hc
    cases h
  | _ => cases hc

/-- Nothing but blanks may follow a value that is read to its end. -/
theorem run_closed {v : Json} {cs : List Char} (h : ∃ c ∈ cs, c ∉ [' ', '\t', '\n', '\r']) :
    run room ⟨[], .closed v⟩ cs = .error .malformed := by
  induction cs with
  | nil =>
    obtain ⟨c, hc, _⟩ := h
    cases hc
  | cons c cs ih =>
    by_cases hblank : isBlank c = true
    · have hstep : step room ⟨[], .closed v⟩ c = .ok ⟨[], .closed v⟩ := follow_blank [] v hblank
      rw [run_cons_of_ok hstep]
      apply ih
      obtain ⟨d, hd, hne⟩ := h
      refine ⟨d, (List.mem_cons.mp hd).resolve_left ?_, hne⟩
      rintro rfl
      exact hne (isBlank_iff.mp hblank)
    · have hstep : step room ⟨[], .closed v⟩ c = .error .malformed := by
        simp only [step, follow, if_neg hblank]
      rw [run_cons, hstep]

end Reader

open Reader

variable {room : Nat}

/-- A text that goes on with a brace does not end before it. -/
theorem read_cut {before after : List Char} {now s : State} (hbefore : run room start before = .ok now)
    (hafter : run room now after = .ok s) (hbrace : '}' ∈ after) :
    read before room = .error .malformed := by
  rw [read_eq, hbefore]
  apply finish_malformed
  intro v hframes hdone
  exact (run_keeps outside_next hafter (hdone.outside hframes)).2 '}' hbrace rfl

/-- No text ends with a replacement. -/
theorem read_replaced {before : List Char} {now : State} (hbefore : run room start before = .ok now) :
    read (before ++ [Encoding.replacement]) room = .error .malformed := by
  have hletters : now.mode.Lettered :=
    (run_keeps (Q := fun _ => True) (fun hnext hs => ⟨lettered_next hnext hs, trivial⟩) hbefore
      trivial).1
  rw [read_eq, run_append_of_ok hbefore, run_cons]
  cases hstep : step room now Encoding.replacement with
  | ok s =>
    obtain ⟨use, taken, escape, hmode⟩ := replacement_next (next_of_step hstep) hletters
    apply finish_malformed
    intro v _ hdone
    simp [Completed, hmode] at hdone
  | error e =>
    cases e with
    | malformed => rfl
    | tooDeep k =>
      obtain ⟨_, hk, _⟩ := step_too_deep.mp hstep
      cases k <;> exact absurd hk (by decide)

/-- A text that is cut anywhere before its last brace is none, nor is it with a replacement for the
character that was cut. -/
theorem read_incomplete {before after : List Char} {s : State}
    (h : run room start (before ++ after) = .ok s) (hbrace : '}' ∈ after) :
    read before room = .error .malformed ∧
      read (before ++ [Encoding.replacement]) room = .error .malformed := by
  rw [run_append] at h
  split at h
  · rename_i now hbefore
    exact ⟨read_cut hbefore h hbrace, read_replaced hbefore⟩
  · cases h

/-- A complete text with more than blanks behind it is none. -/
theorem read_polluted {cs more : List Char} {v : Json} (h : run room start cs = .ok ⟨[], .closed v⟩)
    (hmore : ∃ c ∈ more, c ∉ [' ', '\t', '\n', '\r']) :
    read (cs ++ more) room = .error .malformed := by
  rw [read_eq, run_append_of_ok h, run_closed hmore]

end CloudDetector.Json
