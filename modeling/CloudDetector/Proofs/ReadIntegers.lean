import CloudDetector.Json.Path
import CloudDetector.Proofs.ReaderStep

namespace CloudDetector.Json

/-- No path ends at an integer too long to be written. -/
def IntegersFit (v : Json) : Prop := ∀ path n, v.reach? path = some (.integer n) → Decimal.Fits n

def MembersFit (members : List (Text × Json)) : Prop := ∀ m ∈ members, m.2.IntegersFit

/-- From what is no object a path leads nowhere. -/
theorem fits_of_leaf {v : Json} (hm : ∀ name, v.member? name = none)
    (hv : ∀ n, v = .integer n → Decimal.Fits n) : v.IntegersFit := by
  intro path n hreach
  cases path with
  | nil => exact hv n (Option.some.inj hreach)
  | cons name path =>
    rw [reach?, hm] at hreach
    cases hreach

theorem fits_array (items : List Json) : (array items).IntegersFit :=
  fits_of_leaf (fun _ => rfl) nofun

theorem fits_object {members : List (Text × Json)} (h : MembersFit members) :
    (object members).IntegersFit := by
  intro path n hreach
  cases path with
  | nil => cases hreach
  | cons name path =>
    obtain ⟨v, hlookup, hrest⟩ := Option.bind_eq_some_iff.mp hreach
    obtain ⟨before, after, hmembers, _⟩ := List.lookup_eq_some_iff.mp hlookup
    have hmem : (name, v) ∈ members := by
      rw [hmembers]
      exact List.mem_append_right before List.mem_cons_self
    exact h _ hmem path n hrest

theorem membersFit_putEntry {name : Text} {v : Json} {members : List (Text × Json)}
    (hv : v.IntegersFit) (hm : MembersFit members) : MembersFit (putEntry name v members) := by
  induction members with
  | nil => exact fun m h => List.mem_singleton.mp h ▸ hv
  | cons e rest ih =>
    obtain ⟨he, hrest⟩ := List.forall_mem_cons.mp hm
    unfold putEntry
    split
    · exact List.forall_mem_cons.mpr ⟨hv, hrest⟩
    · exact List.forall_mem_cons.mpr ⟨he, ih hrest⟩

namespace Numeral

theorem digits_taken {s taken rest : List Char} (h : digits? s = some (taken, rest)) :
    ∀ c ∈ taken, c.isDigit = true := by
  unfold digits? at h
  dsimp only at h
  split at h
  · cases h
  · obtain ⟨rfl, _⟩ := Prod.mk.inj (Option.some.inj h)
    exact List.all_eq_true.mp List.all_takeWhile

theorem whole_digits {s : List Char} {n : Numeral} (h : read? s = some n) :
    ∀ c ∈ n.whole, c.isDigit = true := by
  simp only [read?] at h
  split at h
  · cases h
  · rename_i whole rest hwhole
    have hdigits : digits? (sign s).2 = some (whole, rest) := by
      unfold whole? at hwhole
      split at hwhole
      · cases hwhole
      · exact hwhole
    split at h
    · cases h
    · split at h
      · cases h
        exact digits_taken hdigits
      · cases h

end Numeral

/-- A spelling with more digits than may be read is no number. -/
theorem fits_number {s : List Char} {v : Json} (h : number? s = some v) : v.IntegersFit := by
  obtain ⟨n, hread, hvalue⟩ := Option.bind_eq_some_iff.mp h
  have hlt := Decimal.value_lt (Numeral.whole_digits hread)
  unfold Numeral.value? at hvalue
  split at hvalue
  · split at hvalue
    · rename_i hlength
      cases hvalue
      refine fits_of_leaf (fun _ => rfl) (fun m hm => ?_)
      cases hm
      rw [Decimal.fits_iff]
      have hmax := Nat.pow_le_pow_right (show 0 < 10 by decide) hlength
      split <;> omega
    · cases hvalue
  · cases hvalue
    exact fits_of_leaf (fun _ => rfl) nofun

namespace Reader

def Frame.Fits : Frame → Prop
  | .array _ => True
  | .object members _ => MembersFit members

/-- What the reader holds, finished or in part, has no integer too long. -/
def Mode.Fits : Mode → Prop
  | .closed v | .literal _ _ v => v.IntegersFit
  | .name members | .colon members _ | .string (.name members) _ _ => MembersFit members
  | .value | .firstItem | .firstName | .number _ | .string .value _ _ => True

structure State.Fits (s : State) : Prop where
  frames : ∀ f ∈ s.frames, f.Fits
  mode : s.mode.Fits

theorem frames_tail {frames : List Frame} (h : ∀ f ∈ frames, f.Fits) :
    ∀ f ∈ frames.tail, f.Fits := fun f hf => h f (List.mem_of_mem_tail hf)

theorem fits_literal {cs : List Char} {v : Json} (h : (cs, v) ∈ literals) : v.IntegersFit := by
  have hleaf : ∀ e ∈ literals, (∀ name, e.2.member? name = none) ∧ ∀ n, e.2 ≠ .integer n := by
    simp [literals, member?]
  obtain ⟨hm, hn⟩ := hleaf _ h
  exact fits_of_leaf hm (fun n he => absurd he (hn n))

theorem Completed.fits {v : Json} {mode : Mode} (h : Completed v mode) (hm : mode.Fits) :
    v.IntegersFit := by
  rcases h with rfl | ⟨spelling, _, hv⟩
  · exact hm
  · exact fits_number hv

theorem Mode.AwaitsName.fits {mode : Mode} {members : List (Text × Json)}
    (h : mode.AwaitsName members) (hm : mode.Fits) : MembersFit members := by
  rcases h with ⟨rfl, rfl⟩ | rfl
  · nofun
  · exact hm

variable {room : Nat}

/-- No character makes an integer too long of what the reader holds. -/
theorem fits_next {s s' : State} {c : Char} (h : Next room s c s') (hs : s.Fits) : s'.Fits := by
  obtain ⟨hf, hm⟩ := hs
  cases h with
  | blank _ _ | letter | lastLetter => exact ⟨hf, hm⟩
  | string _ | object _ _ | number _ _ | digit _ => exact ⟨hf, trivial⟩
  | array _ _ => exact ⟨List.forall_mem_cons.mpr ⟨trivial, hf⟩, trivial⟩
  | literal _ hl | infinity hl => exact ⟨hf, fits_literal hl⟩
  | emptyArray => exact ⟨frames_tail hf, fits_array []⟩
  | emptyObject => exact ⟨hf, fits_object nofun⟩
  | name h => exact ⟨hf, h.fits hm⟩
  | colon => exact ⟨List.forall_mem_cons.mpr ⟨hm, hf⟩, trivial⟩
  | afterNumber h _ => exact ⟨hf, fits_number h⟩
  | nextItem _ => exact ⟨List.forall_mem_cons.mpr ⟨trivial, frames_tail hf⟩, trivial⟩
  | endArray _ => exact ⟨frames_tail hf, fits_array _⟩
  | nextMember h =>
    exact ⟨frames_tail hf, membersFit_putEntry (h.fits hm) (hf _ List.mem_cons_self)⟩
  | endObject h =>
    exact ⟨frames_tail hf,
      fits_object (membersFit_putEntry (h.fits hm) (hf _ List.mem_cons_self))⟩
  | @endString frames use taken =>
    cases use with
    | value => exact ⟨hf, fits_of_leaf (fun _ => rfl) nofun⟩
    | name members => exact ⟨hf, hm⟩
  | @inString frames use _ _ _ _ _ _ =>
    cases use with
    | value => exact ⟨hf, trivial⟩
    | name members => exact ⟨hf, hm⟩

/-- A surrogate makes nothing but a longer string of it. -/
theorem fits_stepPoint {s s' : State} {c : CodePoint} (h : stepPoint room s c = .ok s')
    (hs : s.Fits) : s'.Fits := by
  unfold stepPoint at h
  split at h
  · exact fits_next (next_of_step h) hs
  · unfold stepSurrogate at h
    split at h
    · rename_i use taken hmode
      cases h
      obtain ⟨hf, hm⟩ := hs
      rw [hmode] at hm
      cases use with
      | value => exact ⟨hf, trivial⟩
      | name members => exact ⟨hf, hm⟩
    · cases h

theorem fits_runText {s s' : State} {t : Text} (h : runText room s t = .ok s') (hs : s.Fits) :
    s'.Fits := by
  induction t generalizing s with
  | nil =>
    cases h
    exact hs
  | cons c t ih =>
    rw [runText] at h
    split at h
    · rename_i next hstep
      exact ih h (fits_stepPoint hstep hs)
    · cases h

end Reader

/-- In a text that is read every integer is short enough to be written again. -/
theorem fits_read {t : Text} {room : Nat} {v : Json} (h : readText t room = .ok v) :
    v.IntegersFit := by
  rw [readText] at h
  split at h
  · rename_i s hrun
    have hs : s.Fits := Reader.fits_runText hrun ⟨fun f hf => absurd hf List.not_mem_nil, trivial⟩
    unfold Reader.finish at h
    split at h
    · rename_i w hmode
      cases h
      have := hs.mode
      rwa [hmode] at this
    · split at h
      · rename_i w hnumber
        cases h
        exact fits_number hnumber
      · cases h
    · cases h
  · cases h

end CloudDetector.Json
