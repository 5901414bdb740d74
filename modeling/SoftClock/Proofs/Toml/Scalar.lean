import SoftClock.Proofs.Text.Characters
import SoftClock.Toml.Scalar
import Mathlib.Data.Int.Notation

/-!
# Scalars at the End of a Line

What is read of the three kinds of scalars that settings are written with, where each stands in
front of a line end: natural numbers in decimal digits, strings of characters that stand for
themselves, and truth values.

A number is first tried as a date, as a time of day and as a number with a fraction. All of them ask
for a separator after some of the digits, and find a digit or the line end instead.
-/

namespace SoftClock.Toml

variable (rest : List Char)

/-! ## Digits -/

/-- A decimal digit has its value in base ten. -/
theorem digitIn?_of_isDigit {c : Char} (hdigit : c.isDigit) :
    digitIn? 10 c = some (c.toNat - '0'.toNat) := by
  have hrange : 48 ≤ c.toNat ∧ c.toNat ≤ 57 := Char.isDigit_iff_toNat.mp hdigit
  have hlt : c.toNat - '0'.toNat < 10 := by
    show c.toNat - 48 < 10
    omega
  simp only [digitIn?, hdigit, if_true, Option.filter_some, hlt, decide_true]

/-- Digits are read up to the end of the line. -/
theorem readDigits_line {c : Char} {cs : List Char} (hdigits : ∀ d ∈ c :: cs, d.isDigit) :
    readDigits 10 (c :: cs ++ '\n' :: rest) = some (c :: cs, '\n' :: rest) := by
  have hc := digitIn?_of_isDigit (hdigits c List.mem_cons_self)
  induction cs generalizing c with
  | nil => simp [readDigits, hc, show digitIn? 10 '\n' = none by decide]
  | cons d cs ih =>
    have hd := hdigits d (by simp)
    have hne : d ≠ '_' := Text.ne_of_test hd (by decide)
    have hvalue := digitIn?_of_isDigit hd
    have hrest := ih (fun e he => hdigits e (List.mem_cons_of_mem _ he)) hvalue
    rw [List.cons_append] at hrest
    simp [readDigits, hc, hvalue, hrest, prepend]

/-- Digits have the value that they stand for. -/
theorem digitsValue_eq {digits : List Char} (hdigits : ∀ c ∈ digits, c.isDigit) :
    digitsValue 10 digits = Nat.ofDigitChars 10 digits 0 := by
  have hfold (acc : ℕ) : digits.foldl (fun acc c => acc * 10 + (digitIn? 10 c).getD 0) acc =
      Nat.ofDigitChars 10 digits acc := by
    induction digits generalizing acc with
    | nil => rfl
    | cons c digits ih =>
      rw [List.foldl_cons, digitIn?_of_isDigit (hdigits c List.mem_cons_self), Option.getD_some,
        ih fun d hd => hdigits d (List.mem_cons_of_mem _ hd), Nat.ofDigitChars_cons, Nat.mul_comm]
  exact hfold 0

/-- The digits of a number are read as a decimal number. -/
theorem readDecimal_natChars (n : ℕ) :
    readDecimal (Text.natChars n ++ '\n' :: rest) = some (Text.natChars n, '\n' :: rest) := by
  have hdigits : ∀ c ∈ Text.natChars n, c.isDigit := fun c hc => Text.isDigit_of_mem_natChars hc
  obtain ⟨c, cs, hchars, -, hzero⟩ := Text.natChars_eq_cons n
  rw [hchars] at hdigits ⊢
  by_cases hc : c = '0'
  · rw [hzero hc, hc]
    rfl
  · have hread := readDigits_line rest hdigits
    rw [List.cons_append] at hread ⊢
    rw [readDecimal, hread]
    simpa using hc

/-! ## No date, no fraction -/

variable {rest} in
/-- After a number of digits there is no separator, but a digit or the line end. -/
theorem expect?_of_readField {count lo hi value : ℕ} {separator : Char} {digits text : List Char}
    (hdigits : ∀ c ∈ digits, c.isDigit) (hseparator : separator.isDigit = false)
    (hline : separator ≠ '\n')
    (hread : readField count lo hi (digits ++ '\n' :: rest) = some (value, text)) :
    expect? separator text = none := by
  unfold readField at hread
  dsimp only at hread
  split at hread <;> cases hread
  rename_i hfield
  obtain ⟨hlength, hall, -⟩ := hfield
  -- the digits of the field are among those in front of the line end
  have hle : count ≤ digits.length := by
    refine Nat.le_of_not_lt fun hlt => ?_
    have hend : '\n' ∈ (digits ++ '\n' :: rest).take count := by
      rw [List.take_append, List.take_of_length_le (by omega),
        show count - digits.length = count - digits.length - 1 + 1 by omega, List.take_succ_cons]
      simp
    exact absurd (List.all_eq_true.mp hall _ hend) (by decide)
  rw [List.drop_append_of_le_length hle]
  cases hdrop : digits.drop count with
  | nil => exact if_neg hline
  | cons d ds =>
    have hd := hdigits d (List.mem_of_mem_drop (hdrop ▸ List.mem_cons_self))
    exact if_neg (Text.ne_of_test hd hseparator).symm

/-- Digits are no date. -/
theorem readDate_digits {digits : List Char} (hdigits : ∀ c ∈ digits, c.isDigit) :
    readDate (digits ++ '\n' :: rest) = none := by
  cases hfield : readField 4 0 9999 (digits ++ '\n' :: rest) with
  | none => simp [readDate, hfield]
  | some read =>
    have hnone : expect? '-' read.2 = none :=
      expect?_of_readField hdigits (by decide) (by decide) hfield
    simp [readDate, hfield, hnone]

/-- Digits are no time of day. -/
theorem readTime_digits {digits : List Char} (hdigits : ∀ c ∈ digits, c.isDigit) :
    readTime (digits ++ '\n' :: rest) = none := by
  cases hfield : readField 2 0 23 (digits ++ '\n' :: rest) with
  | none => simp [readTime, hfield]
  | some read =>
    have hnone : expect? ':' read.2 = none :=
      expect?_of_readField hdigits (by decide) (by decide) hfield
    simp [readTime, hfield, hnone]

/-- Digits are no date and no time of day. -/
theorem readDateTime_digits {digits : List Char} (hdigits : ∀ c ∈ digits, c.isDigit) :
    readDateTime (digits ++ '\n' :: rest) = none := by
  rw [readDateTime, readDate_digits rest hdigits, readTime_digits rest hdigits]
  rfl

/-- The digits of a number are no number with a fraction. -/
theorem readFloat_natChars (n : ℕ) : readFloat (Text.natChars n ++ '\n' :: rest) = none := by
  obtain ⟨c, cs, hchars, hdigit, -⟩ := Text.natChars_eq_cons n
  have hne {d : Char} (hd : d.isDigit = false) : c ≠ d := Text.ne_of_test hdigit hd
  have hread := readDecimal_natChars rest n
  have hsign : readSign (Text.natChars n ++ '\n' :: rest) =
      (false, Text.natChars n ++ '\n' :: rest) := by
    rw [hchars]
    simp [readSign, hne (d := '-') (by decide), hne (d := '+') (by decide)]
  rw [hchars, List.cons_append] at hread hsign ⊢
  simp [readFloat, hsign, hread, hne (d := 'i') (by decide), hne (d := 'n') (by decide),
    readFraction, readExponent]

/-! ## Scalars -/

/-- The digits of a number that fits a signed word are read as that number. -/
theorem readInteger_natChars {n : ℕ} (hfits : n ≤ 0x7fffffffffffffff) :
    readInteger (Text.natChars n ++ '\n' :: rest) = some (.integer n, '\n' :: rest) := by
  have hvalue : digitsValue 10 (Text.natChars n) = n := by
    rw [digitsValue_eq fun c hc => Text.isDigit_of_mem_natChars hc, Text.ofDigitChars_natChars]
  have hbounded : bounded? (n : ℤ) = some (.integer n) := by
    rw [bounded?, if_pos (by omega)]
  have hread := readDecimal_natChars rest n
  obtain ⟨c, cs, hchars, hdigit, hzero⟩ := Text.natChars_eq_cons n
  have hne {d : Char} (hd : d.isDigit = false) : c ≠ d := Text.ne_of_test hdigit hd
  rw [hchars, List.cons_append] at hread ⊢
  rw [hchars] at hvalue
  -- a zero is followed by the line end, not by the mark of another base
  by_cases hc : c = '0'
  · subst hc
    rw [hzero rfl, List.nil_append] at hread ⊢
    rw [hzero rfl] at hvalue
    simp [readInteger, readSign, hread, hvalue, hbounded]
  · have hsign : readSign (c :: (cs ++ '\n' :: rest)) = (false, c :: (cs ++ '\n' :: rest)) := by
      simp [readSign, hne (d := '-') (by decide), hne (d := '+') (by decide)]
    simp [readInteger, hc, hsign, hread, hvalue, hbounded]

/-- A number in front of a line end is read as it was written. -/
theorem readScalar_natChars {n : ℕ} (hfits : n ≤ 0x7fffffffffffffff) :
    readScalar (Text.natChars n ++ '\n' :: rest) = some (.integer n, '\n' :: rest) := by
  have hdate := readDateTime_digits rest fun c hc => Text.isDigit_of_mem_natChars (n := n) hc
  have hfloat := readFloat_natChars rest n
  have hinteger := readInteger_natChars rest hfits
  obtain ⟨c, cs, hchars, hdigit, -⟩ := Text.natChars_eq_cons n
  have hne {d : Char} (hd : d.isDigit = false) : c ≠ d := Text.ne_of_test hdigit hd
  rw [hchars, List.cons_append] at hdate hfloat hinteger ⊢
  simp [readScalar, hne (d := 't') (by decide), hne (d := 'f') (by decide),
    hne (d := '"') (by decide), hne (d := '\'') (by decide), hdate, hfloat, hinteger]

/-- Characters that stand for themselves are read up to the closing mark. -/
theorem readBasic_chars {chars : List Char} (hchars : ∀ c ∈ chars, isBasicChar c) :
    readBasic (chars ++ '"' :: rest) = some (chars, rest) := by
  induction chars with
  | nil => simp [readBasic]
  | cons c chars ih =>
    have hc := hchars c List.mem_cons_self
    have hrest := ih fun d hd => hchars d (List.mem_cons_of_mem _ hd)
    have hmark : c ≠ '"' := Text.ne_of_test hc (by decide)
    have hescape : c ≠ '\\' := Text.ne_of_test hc (by decide)
    simp [readBasic, hescape, hc, hrest, prepend]

/-- A text between quotation marks is read as it was written. -/
theorem readScalar_string {chars : List Char} (hne : chars ≠ [])
    (hchars : ∀ c ∈ chars, isBasicChar c) :
    readScalar ('"' :: (chars ++ '"' :: rest)) = some (.string (String.ofList chars), rest) := by
  have hread := readBasic_chars rest hchars
  cases chars with
  | nil => exact absurd rfl hne
  | cons c chars =>
    have hmark : c ≠ '"' := Text.ne_of_test (hchars c List.mem_cons_self) (by decide)
    rw [List.cons_append] at hread ⊢
    simp [readScalar, readString, hmark, hread]

/-- A truth value is read as it was written. -/
theorem readScalar_bool (value : Bool) :
    readScalar ((if value then "true" else "false").toList ++ rest) =
      some (.boolean value, rest) := by
  cases value <;> rfl

end SoftClock.Toml
