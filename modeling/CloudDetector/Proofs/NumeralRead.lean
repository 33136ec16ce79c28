import CloudDetector.Json.Reader
import CloudDetector.Proofs.Spelling

namespace CloudDetector.Json

/-- No digit comes next. -/
def NoDigit (cs : List Char) : Prop := ∀ c, cs.head? = some c → c.isDigit = false

theorem Digits.eq_cons {digits : List Char} (h : Digits digits) :
    ∃ c cs, digits = c :: cs ∧ c.isDigit = true := by
  obtain ⟨hne, hall⟩ := h
  cases digits with
  | nil => exact absurd rfl hne
  | cons c cs => exact ⟨c, cs, rfl, hall c List.mem_cons_self⟩

theorem Digits.of_canonical {digits : List Char} (h : Decimal.Canonical digits) : Digits digits :=
  ⟨h.nonempty, h.digit⟩

/-- The first character of a number, and those that it may go on with. -/
def NumberShape (cs : List Char) : Prop :=
  ∃ c rest, cs = c :: rest ∧ (c = '-' ∨ c.isDigit = true) ∧ ∀ d ∈ rest, Reader.inNumber d = true

theorem inNumber_digit {c : Char} (h : c.isDigit = true) : Reader.inNumber c = true := by
  simp [Reader.inNumber, h]

theorem Digits.inNumber {digits : List Char} (h : Digits digits) :
    ∀ c ∈ digits, Reader.inNumber c = true := fun c hc => inNumber_digit (h.2 c hc)

theorem inNumber_fraction {places : List Char} (h : Digits places) :
    ∀ c ∈ '.' :: places, Reader.inNumber c = true :=
  List.forall_mem_cons.mpr ⟨rfl, h.inNumber⟩

theorem ExponentSpelling.inNumber {e : Int} {cs : List Char} (h : ExponentSpelling e cs) :
    ∀ c ∈ cs, Reader.inNumber c = true := by
  have hmark : ∀ {c : Char}, c = 'e' ∨ c = 'E' → Reader.inNumber c = true := by
    rintro c (rfl | rfl) <;> rfl
  cases h with
  | plain mark h => exact List.forall_mem_cons.mpr ⟨hmark mark, h.inNumber⟩
  | plus mark h | minus mark h =>
    exact List.forall_mem_cons.mpr ⟨hmark mark, List.forall_mem_cons.mpr ⟨rfl, h.inNumber⟩⟩

theorem ExponentSpelling.noDigit {e : Int} {cs : List Char} (h : ExponentSpelling e cs) :
    NoDigit cs := by
  intro c hc
  cases h with
  | plain mark h | plus mark h | minus mark h =>
    obtain rfl := Option.some.inj hc
    rcases mark with rfl | rfl <;> rfl

/-- A sign and digits, and then only what may stand in a number. -/
theorem numberShape {whole rest : List Char} (negative : Bool) (h : Decimal.Canonical whole)
    (hrest : ∀ c ∈ rest, Reader.inNumber c = true) :
    NumberShape (signText negative ++ whole ++ rest) := by
  cases negative with
  | true =>
    refine ⟨'-', whole ++ rest, rfl, .inl rfl, ?_⟩
    intro d hd
    rcases List.mem_append.mp hd with hd | hd
    · exact inNumber_digit (h.digit d hd)
    · exact hrest d hd
  | false =>
    obtain ⟨hne, hdigit, _⟩ := h
    cases whole with
    | nil => exact absurd rfl hne
    | cons c whole =>
      refine ⟨c, whole ++ rest, rfl, .inr (hdigit c List.mem_cons_self), ?_⟩
      intro d hd
      rcases List.mem_append.mp hd with hd | hd
      · exact inNumber_digit (hdigit d (List.mem_cons_of_mem c hd))
      · exact hrest d hd

theorem NumberSpelling.shape {v : Json} {cs : List Char} (h : NumberSpelling v cs) :
    NumberShape cs := by
  cases h with
  | integer negative h short =>
    rw [← List.append_nil (signText negative ++ _)]
    exact numberShape negative h nofun
  | fraction negative h hp => exact numberShape negative h (inNumber_fraction hp)
  | exponent negative h he => exact numberShape negative h he.inNumber
  | scientific negative h hp he =>
    rw [List.append_assoc]
    apply numberShape negative h
    intro c hc
    rcases List.mem_append.mp hc with hc | hc
    · exact inNumber_fraction hp c hc
    · exact he.inNumber c hc

namespace Numeral

theorem digits?_append {digits rest : List Char} (h : Digits digits) (hrest : NoDigit rest) :
    digits? (digits ++ rest) = some (digits, rest) := by
  have htake : rest.takeWhile Char.isDigit = [] := by
    cases rest with
    | nil => rfl
    | cons c rest => exact List.takeWhile_cons_of_neg (by rw [hrest c rfl]; nofun)
  have hdrop : rest.dropWhile Char.isDigit = rest := by
    cases rest with
    | nil => rfl
    | cons c rest => exact List.dropWhile_cons_of_neg (by rw [hrest c rfl]; nofun)
  unfold digits?
  rw [List.takeWhile_append_of_pos h.2, List.dropWhile_append_of_pos h.2, htake, hdrop,
    List.append_nil]
  exact if_neg (by simpa using h.1)

theorem whole?_append {whole rest : List Char} (h : Decimal.Canonical whole)
    (hrest : NoDigit rest) : whole? (whole ++ rest) = some (whole, rest) := by
  unfold whole?
  rw [digits?_append (Digits.of_canonical h) hrest]
  split
  · rename_i c cs rest' heq
    obtain ⟨rfl, _⟩ := Prod.mk.inj (Option.some.inj heq)
    cases h.lead rfl
  · rfl

theorem sign_append {whole : List Char} (negative : Bool) (h : Decimal.Canonical whole)
    (rest : List Char) : sign (signText negative ++ whole ++ rest) = (negative, whole ++ rest) := by
  cases negative with
  | true => rfl
  | false =>
    obtain ⟨c, cs, rfl, hdigit⟩ := (Digits.of_canonical h).eq_cons
    rw [signText, if_neg nofun, List.nil_append, List.cons_append, sign]
    rintro s ⟨rfl, _⟩
    cases hdigit

theorem fraction?_some {places rest : List Char} (h : Digits places) (hrest : NoDigit rest) :
    fraction? ('.' :: places ++ rest) = some (some places, rest) := by
  rw [List.cons_append, fraction?, digits?_append h hrest]
  rfl

theorem exponent?_append {e : Int} {cs : List Char} (h : ExponentSpelling e cs) :
    exponent? cs = some (some e, []) := by
  have hdigits : ∀ {digits : List Char}, Digits digits → digits? digits = some (digits, []) := by
    intro digits hd
    have h : digits? (digits ++ []) = some (digits, []) := digits?_append hd nofun
    rwa [List.append_nil] at h
  have hsigned : ∀ {e : Char} {cs : List Char}, e = 'e' ∨ e = 'E' →
      exponent? (e :: cs) = (signedDigits? cs).map (fun p => (some p.1, p.2)) := by
    rintro e cs (rfl | rfl) <;> rfl
  cases h with
  | @plain e digits mark h =>
    obtain ⟨c, cs, rfl, hdigit⟩ := h.eq_cons
    rw [hsigned mark, signedDigits?, hdigits h]
    · rfl
    · rintro s ⟨rfl, _⟩
      cases hdigit
    · rintro s ⟨rfl, _⟩
      cases hdigit
  | plus mark h | minus mark h =>
    rw [hsigned mark, signedDigits?, hdigits h]
    rfl

theorem fraction?_none {e : Int} {cs : List Char} (h : ExponentSpelling e cs) :
    fraction? cs = some (none, cs) := by
  cases h with
  | plain mark h | plus mark h | minus mark h => rcases mark with rfl | rfl <;> rfl

theorem read?_append {whole rest left : List Char} {fraction : Option (List Char)}
    {exponent : Option Int} (negative : Bool) (h : Decimal.Canonical whole) (hrest : NoDigit rest)
    (hf : fraction? rest = some (fraction, left)) (he : exponent? left = some (exponent, [])) :
    read? (signText negative ++ whole ++ rest) = some ⟨negative, whole, fraction, exponent⟩ := by
  simp only [read?, sign_append negative h rest, whole?_append h hrest, hf, he]

end Numeral

theorem noDigit_point (cs : List Char) : NoDigit ('.' :: cs) := by
  intro c hc
  obtain rfl := Option.some.inj hc
  rfl

/-- A number's spelling is read as what it stands for. -/
theorem number?_of_spelling {v : Json} {cs : List Char} (h : NumberSpelling v cs) :
    number? cs = some v := by
  cases h with
  | integer negative h short =>
    have hread : Numeral.read? (signText negative ++ _ ++ []) = _ :=
      Numeral.read?_append negative h nofun rfl rfl
    rw [List.append_nil] at hread
    rw [number?, hread, Option.bind_some, Numeral.value?]
    exact if_pos short
  | @fraction whole places negative h hp =>
    have hf : Numeral.fraction? ('.' :: places ++ []) = some (some places, []) :=
      Numeral.fraction?_some hp nofun
    rw [List.append_nil] at hf
    have hread := Numeral.read?_append negative h (noDigit_point places) hf rfl
    rw [number?, hread, Option.bind_some, Numeral.value?]
    simp
  | exponent negative h he =>
    have hread := Numeral.read?_append negative h he.noDigit (Numeral.fraction?_none he)
      (Numeral.exponent?_append he)
    rw [number?, hread, Option.bind_some, Numeral.value?]
    simp
  | @scientific whole places cs e negative h hp he =>
    have hread := Numeral.read?_append negative h (noDigit_point (places ++ cs))
      (Numeral.fraction?_some hp he.noDigit) (Numeral.exponent?_append he)
    rw [List.append_assoc, List.cons_append, number?, hread, Option.bind_some, Numeral.value?]
    rfl

end CloudDetector.Json
