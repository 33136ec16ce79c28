namespace CloudDetector.Encoding

/-- Stands for bytes that are no character. -/
def replacement : Char := '\uFFFD'

namespace Utf8

/-- A character that is not complete: its bits so far, how many bytes follow, and the range in which
the next one must lie. -/
structure Pending where
  bits : Nat
  more : Nat
  low : Nat
  high : Nat

/-- Characters stand latest first. -/
structure State where
  out : List Char
  pending : Option Pending

/-- The byte of a new character. The ranges keep out overlong forms, surrogates and what lies past
the last code point. -/
def begin (out : List Char) (b : UInt8) : State :=
  let n := b.toNat
  if n < 0x80 then ⟨.ofNat n :: out, none⟩
  else if n < 0xC2 then ⟨replacement :: out, none⟩
  else if n < 0xE0 then ⟨out, some ⟨n - 0xC0, 1, 0x80, 0xBF⟩⟩
  else if n < 0xF0 then
    ⟨out, some ⟨n - 0xE0, 2, if n = 0xE0 then 0xA0 else 0x80, if n = 0xED then 0x9F else 0xBF⟩⟩
  else if n < 0xF5 then
    ⟨out, some ⟨n - 0xF0, 3, if n = 0xF0 then 0x90 else 0x80, if n = 0xF4 then 0x8F else 0xBF⟩⟩
  else ⟨replacement :: out, none⟩

/-- A byte that cannot continue the pending character ends it as one replacement and begins anew. -/
def step (s : State) (b : UInt8) : State :=
  match s.pending with
  | none => begin s.out b
  | some p =>
    if p.low ≤ b.toNat ∧ b.toNat ≤ p.high then
      let bits := p.bits * 64 + (b.toNat - 0x80)
      if p.more ≤ 1 then ⟨.ofNat bits :: s.out, none⟩
      else ⟨s.out, some ⟨bits, p.more - 1, 0x80, 0xBF⟩⟩
    else begin (replacement :: s.out) b

def finish (s : State) : List Char :=
  match s.pending with
  | none => s.out.reverse
  | some _ => (replacement :: s.out).reverse

/-- Decodes any bytes: each longest piece that could begin a character and does not become one is a
replacement. -/
def decode (bytes : List UInt8) : List Char := finish (bytes.foldl step ⟨[], none⟩)

theorem step_ascii (out : List Char) {b : UInt8} (h : b.toNat < 0x80) :
    step ⟨out, none⟩ b = ⟨.ofNat b.toNat :: out, none⟩ := by
  simp only [step, begin, if_pos h]

/-- Bytes of ASCII are their own characters. -/
theorem decode_ascii {bytes : List UInt8} (h : ∀ b ∈ bytes, b.toNat < 0x80) :
    decode bytes = bytes.map (fun b => .ofNat b.toNat) := by
  have hfold : ∀ out, bytes.foldl step ⟨out, none⟩ =
      ⟨(bytes.map (fun b => Char.ofNat b.toNat)).reverse ++ out, none⟩ := by
    induction bytes with
    | nil => exact fun out => rfl
    | cons b bytes ih =>
      intro out
      rw [List.foldl_cons, step_ascii out (h b List.mem_cons_self),
        ih (fun b hb => h b (List.mem_cons_of_mem _ hb))]
      simp
  rw [decode, hfold, finish]
  simp

def encodeChar (c : Char) : List UInt8 := String.utf8EncodeChar c

def encode (cs : List Char) : List UInt8 := cs.flatMap encodeChar

theorem encodeChar_ascii {b : UInt8} (h : b.toNat < 0x80) : encodeChar (.ofNat b.toNat) = [b] := by
  have hvalid : b.toNat.isValidChar := .inl (by omega)
  have hval : (Char.ofNat b.toNat).val.toNat = b.toNat := by
    rw [Char.ofNat, dif_pos hvalid]
    rfl
  rw [encodeChar, String.utf8EncodeChar, hval, if_pos (by omega), UInt8.ofNat_toNat]

/-- Decodes what is UTF-8 throughout. Of anything else a replacement is left, which encodes to other
bytes. -/
def decode? (bytes : List UInt8) : Option (List Char) :=
  if encode (decode bytes) = bytes then some (decode bytes) else none

end Utf8

end CloudDetector.Encoding
