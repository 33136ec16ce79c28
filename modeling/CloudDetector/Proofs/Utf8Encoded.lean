import CloudDetector.Encoding.Utf8

namespace CloudDetector.Encoding.Utf8

/-- The bytes that complete a character from a state on. Until the last of them it is pending. -/
inductive Completes (out : List Char) (c : Char) : State → List UInt8 → Prop
  | last {s : State} {b : UInt8} (h : step s b = ⟨c :: out, none⟩) : Completes out c s [b]
  | next {s : State} {p : Pending} {b : UInt8} {bs : List UInt8} (h : step s b = ⟨out, some p⟩)
      (hs : Completes out c ⟨out, some p⟩ bs) : Completes out c s (b :: bs)

theorem Completes.fold {out : List Char} {c : Char} {s : State} {bs : List UInt8}
    (h : Completes out c s bs) : bs.foldl step s = ⟨c :: out, none⟩ := by
  induction h with
  | last h => exact h
  | next h _ ih => rw [List.foldl_cons, h, ih]

/-- A part of the bytes leaves the character pending. -/
theorem Completes.part {out : List Char} {c : Char} {s : State} {bs part rest : List UInt8}
    (h : Completes out c s bs) (hparts : part ++ rest = bs) (hpart : part ≠ [])
    (hrest : rest ≠ []) : ∃ p, part.foldl step s = ⟨out, some p⟩ := by
  induction h generalizing part with
  | last _ =>
    rcases List.append_eq_singleton_iff.mp hparts with ⟨he, _⟩ | ⟨_, he⟩
    · exact absurd he hpart
    · exact absurd he hrest
  | @next s p b bs h _ ih =>
    cases part with
    | nil => exact absurd rfl hpart
    | cons b' part =>
      obtain ⟨rfl, hbytes⟩ := List.cons.inj hparts
      rw [List.foldl_cons, h]
      by_cases hp : part = []
      · subst hp
        exact ⟨p, rfl⟩
      · exact ih hbytes hp

/-- A byte in range ends a pending character that lacks no other. -/
theorem completes_last {out : List Char} {c : Char} {p : Pending} {n : Nat} (hmore : p.more = 1)
    (hn : p.low ≤ n ∧ n ≤ p.high ∧ n < 256) (hbits : p.bits * 64 + (n - 0x80) = c.val.toNat) :
    Completes out c ⟨out, some p⟩ [UInt8.ofNat n] := by
  apply Completes.last
  have hle : p.more ≤ 1 := Nat.le_of_eq hmore
  have hc : Char.ofNat c.val.toNat = c := c.ofNat_toNat
  simp only [step, UInt8.toNat_ofNat_of_lt' hn.2.2, hn.1, hn.2.1, and_self, if_pos, hle, hbits, hc]

/-- A byte in range is taken into a pending character that lacks others too. -/
theorem completes_next {out : List Char} {c : Char} {p : Pending} {n : Nat} {bs : List UInt8}
    (hmore : 1 < p.more) (hn : p.low ≤ n ∧ n ≤ p.high ∧ n < 256)
    (h : Completes out c ⟨out, some ⟨p.bits * 64 + (n - 0x80), p.more - 1, 0x80, 0xBF⟩⟩ bs) :
    Completes out c ⟨out, some p⟩ (UInt8.ofNat n :: bs) := by
  refine Completes.next ?_ h
  simp only [step, UInt8.toNat_ofNat_of_lt' hn.2.2, hn.1, hn.2.1, and_self, if_pos,
    if_neg (Nat.not_le.mpr hmore)]

theorem step_lead_two (out : List Char) {n : Nat} (h : 0xC2 ≤ n ∧ n < 0xE0) :
    step ⟨out, none⟩ (UInt8.ofNat n) = ⟨out, some ⟨n - 0xC0, 1, 0x80, 0xBF⟩⟩ := by
  have h₁ : ¬n < 0x80 := by omega
  have h₂ : ¬n < 0xC2 := by omega
  have hn : (UInt8.ofNat n).toNat = n := UInt8.toNat_ofNat_of_lt' (by omega : n < 256)
  simp only [step, begin, hn, if_neg h₁, if_neg h₂, if_pos h.2]

theorem step_lead_three (out : List Char) {n : Nat} (h : 0xE0 ≤ n ∧ n < 0xF0) :
    step ⟨out, none⟩ (UInt8.ofNat n) = ⟨out, some ⟨n - 0xE0, 2, if n = 0xE0 then 0xA0 else 0x80,
      if n = 0xED then 0x9F else 0xBF⟩⟩ := by
  have h₁ : ¬n < 0x80 := by omega
  have h₂ : ¬n < 0xC2 := by omega
  have h₃ : ¬n < 0xE0 := by omega
  have hn : (UInt8.ofNat n).toNat = n := UInt8.toNat_ofNat_of_lt' (by omega : n < 256)
  simp only [step, begin, hn, if_neg h₁, if_neg h₂, if_neg h₃, if_pos h.2]

theorem step_lead_four (out : List Char) {n : Nat} (h : 0xF0 ≤ n ∧ n < 0xF5) :
    step ⟨out, none⟩ (UInt8.ofNat n) = ⟨out, some ⟨n - 0xF0, 3, if n = 0xF0 then 0x90 else 0x80,
      if n = 0xF4 then 0x8F else 0xBF⟩⟩ := by
  have h₁ : ¬n < 0x80 := by omega
  have h₂ : ¬n < 0xC2 := by omega
  have h₃ : ¬n < 0xE0 := by omega
  have h₄ : ¬n < 0xF0 := by omega
  have hn : (UInt8.ofNat n).toNat = n := UInt8.toNat_ofNat_of_lt' (by omega : n < 256)
  simp only [step, begin, hn, if_neg h₁, if_neg h₂, if_neg h₃, if_neg h₄, if_pos h.2]

/-- The ranges of the second byte let every scalar value pass. -/
theorem completes_encodeChar (out : List Char) (c : Char) :
    Completes out c ⟨out, none⟩ (encodeChar c) := by
  have hvalid : c.val.toNat < 0xD800 ∨ 0xDFFF < c.val.toNat ∧ c.val.toNat < 0x110000 := c.valid
  have hc : Char.ofNat c.val.toNat = c := c.ofNat_toNat
  simp only [encodeChar, String.utf8EncodeChar]
  split
  · have hn : (UInt8.ofNat c.val.toNat).toNat = c.val.toNat :=
      UInt8.toNat_ofNat_of_lt' (by omega : c.val.toNat < 256)
    apply Completes.last
    rw [step_ascii out (by omega), hn, hc]
  · split
    · refine .next (step_lead_two out (by omega)) ?_
      exact completes_last rfl (by dsimp only; omega) (by dsimp only; omega)
    · split
      · refine .next (step_lead_three out (by omega)) ?_
        refine completes_next (Nat.lt_succ_self 1) (by dsimp only; split <;> split <;> omega) ?_
        exact completes_last rfl (by dsimp only; omega) (by dsimp only; omega)
      · refine .next (step_lead_four out (by omega)) ?_
        refine completes_next (by dsimp only; omega) (by dsimp only; split <;> split <;> omega) ?_
        refine completes_next (Nat.lt_succ_self 1) (by dsimp only; omega) ?_
        exact completes_last rfl (by dsimp only; omega) (by dsimp only; omega)

theorem fold_encode (cs out : List Char) :
    (encode cs).foldl step ⟨out, none⟩ = ⟨cs.reverse ++ out, none⟩ := by
  induction cs generalizing out with
  | nil => rfl
  | cons c cs ih =>
    rw [encode, List.flatMap_cons, List.foldl_append, (completes_encodeChar out c).fold]
    change (encode cs).foldl step _ = _
    rw [ih, List.reverse_cons, List.append_assoc]
    rfl

theorem begin_behind (before out : List Char) (b : UInt8) :
    begin (out ++ before) b = ⟨(begin out b).out ++ before, (begin out b).pending⟩ := by
  simp only [begin]
  repeat' split
  all_goals rfl

theorem step_behind (before : List Char) (s : State) (b : UInt8) :
    step ⟨s.out ++ before, s.pending⟩ b = ⟨(step s b).out ++ before, (step s b).pending⟩ := by
  obtain ⟨out, pending⟩ := s
  cases pending with
  | none => exact begin_behind before out b
  | some p =>
    simp only [step]
    split
    · split <;> rfl
    · exact begin_behind before (replacement :: out) b

theorem fold_behind (before : List Char) (bytes : List UInt8) (s : State) :
    bytes.foldl step ⟨s.out ++ before, s.pending⟩ =
      ⟨(bytes.foldl step s).out ++ before, (bytes.foldl step s).pending⟩ := by
  induction bytes generalizing s with
  | nil => rfl
  | cons b bytes ih =>
    rw [List.foldl_cons, List.foldl_cons, step_behind]
    exact ih (step s b)

theorem finish_behind (before : List Char) (s : State) :
    finish ⟨s.out ++ before, s.pending⟩ = before.reverse ++ finish s := by
  obtain ⟨out, pending⟩ := s
  cases pending with
  | none => exact List.reverse_append
  | some p =>
    have h : (replacement :: out ++ before).reverse =
        before.reverse ++ (replacement :: out).reverse := List.reverse_append
    exact h

/-- Encoded characters come back, and what follows them is decoded by itself. -/
theorem decode_encode_append (cs : List Char) (more : List UInt8) :
    decode (encode cs ++ more) = cs ++ decode more := by
  have h := fold_behind cs.reverse more ⟨[], none⟩
  rw [decode, List.foldl_append, fold_encode, List.append_nil]
  change finish (more.foldl step ⟨[] ++ cs.reverse, none⟩) = _
  rw [h, finish_behind, List.reverse_reverse]
  rfl

theorem decode_encode (cs : List Char) : decode (encode cs) = cs := by
  have h := decode_encode_append cs []
  rwa [List.append_nil, show decode [] = [] from rfl, List.append_nil] at h

/-- Bytes decode without a replacement for them exactly if they encode something. -/
theorem decode?_eq_some_iff {bytes : List UInt8} {cs : List Char} :
    decode? bytes = some cs ↔ bytes = encode cs := by
  constructor
  · intro h
    unfold decode? at h
    split at h
    · rename_i hbytes
      rw [← Option.some.inj h, hbytes]
    · cases h
  · rintro rfl
    rw [decode?, decode_encode, if_pos rfl]

/-- A part of one character's bytes is one replacement. -/
theorem decode_part {c : Char} {part rest : List UInt8} (h : part ++ rest = encodeChar c)
    (hpart : part ≠ []) (hrest : rest ≠ []) : decode part = [replacement] := by
  obtain ⟨p, hp⟩ := (completes_encodeChar [] c).part h hpart hrest
  rw [decode, hp]
  rfl

/-- The bytes of a text may be cut between two characters or within one. -/
theorem encode_cut {cs : List Char} {front back : List UInt8} (h : front ++ back = encode cs)
    (hback : back ≠ []) : ∃ before c after, cs = before ++ c :: after ∧
      (front = encode before ∨
        ∃ part rest, front = encode before ++ part ∧ part ++ rest = encodeChar c ∧
          part ≠ [] ∧ rest ≠ []) := by
  induction cs generalizing front with
  | nil => exact absurd (List.append_eq_nil_iff.mp h).2 hback
  | cons c cs ih =>
    change front ++ back = encodeChar c ++ encode cs at h
    rcases List.append_eq_append_iff.mp h with ⟨rest, hc, hback'⟩ | ⟨front', rfl, hcs⟩
    · by_cases hfront : front = []
      · exact ⟨[], c, cs, rfl, .inl hfront⟩
      · by_cases hrest : rest = []
        · subst hrest
          cases cs with
          | nil => exact absurd hback' hback
          | cons d cs =>
            refine ⟨[c], d, cs, rfl, .inl ?_⟩
            exact (List.append_nil front).symm.trans (hc.symm.trans (List.append_nil _).symm)
        · exact ⟨[], c, cs, rfl, .inr ⟨front, rest, rfl, hc.symm, hfront, hrest⟩⟩
    · obtain ⟨before, d, after, rfl, hcut⟩ := ih hcs.symm
      refine ⟨c :: before, d, after, rfl, ?_⟩
      rcases hcut with rfl | ⟨part, rest, rfl, hd⟩
      · exact .inl rfl
      · exact .inr ⟨part, rest, (List.append_assoc _ _ _).symm, hd⟩

/-- What is left of a text that was cut short: characters of it, and maybe a replacement for the
last one. -/
theorem decode_cut {cs : List Char} {front back : List UInt8} (h : front ++ back = encode cs)
    (hback : back ≠ []) : ∃ before c after, cs = before ++ c :: after ∧
      (decode front = before ∨ decode front = before ++ [replacement]) := by
  obtain ⟨before, c, after, rfl, rfl | ⟨part, rest, rfl, hpart⟩⟩ := encode_cut h hback
  · exact ⟨before, c, after, rfl, .inl (decode_encode before)⟩
  · refine ⟨before, c, after, rfl, .inr ?_⟩
    rw [decode_encode_append, decode_part hpart.1 hpart.2.1 hpart.2.2]

end CloudDetector.Encoding.Utf8
