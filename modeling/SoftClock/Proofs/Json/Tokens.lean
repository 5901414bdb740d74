import SoftClock.Json.Reader
import SoftClock.Proofs.Text.Characters
import Mathlib.Data.Int.Notation
import Mathlib.Tactic.SplitIfs

/-!
# JSON Strings and Numbers Survive Their Text

A string is read back from between its quotation marks, whatever its characters
(`readText_bodyChars`): a character that is escaped stands for its own code point again
(`readBody_stringChar`), and no character is half of a surrogate pair
(`joinSurrogates?_codes`). A number is read back as long as nothing behind it continues it
(`readNumber_intChars`, `readNumber_decimal`).
-/

namespace SoftClock.Json

/-! ## Strings -/

/-- A hexadecimal digit has its value. -/
theorem hexValue?_hexDigit {n : ℕ} (hlt : n < 16) : hexValue? (hexDigit n) = some n := by
  have hdigits : ∀ n < 16, hexValue? (hexDigit n) = some n := by decide
  exact hdigits n hlt

/-- A control character is read back from its code. -/
theorem unit?_hexDigits {n : ℕ} (hlt : n < 0x20) :
    unit? '0' '0' (hexDigit (n / 16)) (hexDigit (n % 16)) = some n := by
  have hzero : hexValue? '0' = some 0 := by decide
  simp only [unit?, hzero, hexValue?_hexDigit (show n / 16 < 16 by omega),
    hexValue?_hexDigit (show n % 16 < 16 by omega), Option.bind_eq_bind, Option.bind_some]
  show some _ = some n
  congr 1
  omega

/-- The escape of two characters stands for its character. -/
theorem readBody_escape {mark c : Char} (hmark : mark ≠ 'u') (hescaped : escaped? mark = some c)
    (rest : List Char) :
    readBody ('\\' :: mark :: rest) =
      (readBody rest).map fun (units, rest) => (c.toNat :: units, rest) := by
  rw [readBody, hescaped]
  exact fun _ _ _ _ _ h => absurd h hmark

/-- A character is read back from what stands for it in a string. -/
theorem readBody_stringChar (c : Char) (rest : List Char) :
    readBody (stringChar c ++ rest) =
      (readBody rest).map fun (units, rest) => (c.toNat :: units, rest) := by
  unfold stringChar
  split_ifs with hmark hslash hback htab hline hfeed hreturn hcontrol
  · subst hmark
    exact readBody_escape (by decide) rfl rest
  · subst hslash
    exact readBody_escape (by decide) rfl rest
  · subst hback
    exact readBody_escape (by decide) rfl rest
  · subst htab
    exact readBody_escape (by decide) rfl rest
  · subst hline
    exact readBody_escape (by decide) rfl rest
  · subst hfeed
    exact readBody_escape (by decide) rfl rest
  · subst hreturn
    exact readBody_escape (by decide) rfl rest
  · -- a control character without an escape of two characters is written by its code
    simp only [List.cons_append, List.nil_append, readBody, unit?_hexDigits hcontrol]
  · -- any other character stands for itself
    rw [List.singleton_append, readBody, if_neg hcontrol]
    · exact fun h => absurd h hmark
    · exact fun _ _ _ _ _ h => absurd h hslash
    · exact fun _ _ h => absurd h hslash

/-- The characters of a string stand for their code points. -/
theorem readBody_chars (chars rest : List Char) :
    readBody (chars.flatMap stringChar ++ '"' :: rest) = some (chars.map Char.toNat, rest) := by
  induction chars with
  | nil => rfl
  | cons c chars ih =>
    rw [List.flatMap_cons, List.append_assoc, readBody_stringChar, ih]
    rfl

/-- No character is half of a surrogate pair. -/
theorem isSurrogate_eq_false (c : Char) :
    isHighSurrogate c.toNat = false ∧ isLowSurrogate c.toNat = false := by
  have hvalid : c.toNat < 0xd800 ∨ 0xdfff < c.toNat ∧ c.toNat < 0x110000 := c.valid
  simp only [isHighSurrogate, isLowSurrogate, Bool.and_eq_false_iff, decide_eq_false_iff_not]
  omega

/-- The code points of characters are no surrogates, and stand for the same characters again. -/
theorem joinSurrogates?_codes (chars : List Char) :
    joinSurrogates? (chars.map Char.toNat) = some chars := by
  induction chars with
  | nil => rfl
  | cons c chars ih =>
    obtain ⟨hhigh, hlow⟩ := isSurrogate_eq_false c
    cases chars with
    | nil => simp [joinSurrogates?, hhigh, hlow]
    | cons d chars =>
      rw [List.map_cons] at ih
      simp [joinSurrogates?, hhigh, hlow, ih]

/-- What follows the opening quotation mark of a string. -/
def bodyChars : JsonText → List Char
  | .text text => text.toList.flatMap stringChar ++ ['"']
  | .unpaired => ['\\', 'u', 'd', '8', '0', '0', '"']

theorem textChars_eq_cons (content : JsonText) : textChars content = '"' :: bodyChars content := by
  cases content <;> rfl

/-- A string is read back from what follows its opening quotation mark. -/
theorem readText_bodyChars (content : JsonText) (rest : List Char) :
    readText (bodyChars content ++ rest) = some (content, rest) := by
  cases content with
  | text text =>
    rw [bodyChars, List.append_assoc, List.singleton_append, readText, readBody_chars]
    simp [joinSurrogates?_codes]
  | unpaired =>
    -- half of a pair at the end of a string has no character
    have hbody : readBody (bodyChars .unpaired ++ rest) = some ([0xd800], rest) := by
      simp only [bodyChars, List.cons_append, List.nil_append, readBody]
      rfl
    rw [readText, hbody]
    rfl

/-! ## Numbers -/

/-- Whether a character behind an integer continues it. -/
def extendsNumber (c : Char) : Bool := c.isDigit || c = '.' || c = 'e' || c = 'E'

/-- A text does not continue the number in front of it. -/
def EndsNumber (rest : List Char) : Prop := ∀ c, rest.head? = some c → extendsNumber c = false

/-- What does not continue a number does not start with a digit. -/
theorem EndsNumber.not_isDigit {rest : List Char} (hrest : EndsNumber rest) {c : Char}
    (hc : rest.head? = some c) : ¬ c.isDigit := by
  intro hdigit
  have hend := hrest c hc
  rw [extendsNumber, hdigit] at hend
  cases hend

/-- The digits of a number are read to their end. -/
theorem span_natChars (n : ℕ) {rest : List Char} (hrest : ∀ c, rest.head? = some c → ¬ c.isDigit) :
    (Text.natChars n ++ rest).takeWhile Char.isDigit = Text.natChars n ∧
      (Text.natChars n ++ rest).dropWhile Char.isDigit = rest :=
  Text.span_of_stop (fun _ hc => Text.isDigit_of_mem_natChars hc)
    (fun c hc => by simpa using hrest c hc)

/-- The digits of a number are read as its whole part. -/
theorem readUnsigned_natChars (negative : Bool) (n : ℕ) {rest : List Char}
    (hdigit : ∀ c, rest.head? = some c → ¬ c.isDigit) (hpoint : rest.head? ≠ some '.') :
    readUnsigned negative (Text.natChars n ++ rest) =
      readScaled negative (Text.natChars n) 0 rest := by
  obtain ⟨hwhole, hend⟩ := span_natChars n hdigit
  obtain ⟨c, cs, hchars, -, hzero⟩ := Text.natChars_eq_cons n
  have hleading : ¬ ((Text.natChars n).isEmpty ∨
      (Text.natChars n).head? = some '0' ∧ Text.natChars n ≠ ['0']) := by
    rw [hchars]
    rintro (hempty | ⟨hhead, hne⟩)
    · cases hempty
    · have hc : c = '0' := Option.some.inj hhead
      exact hne (by rw [hzero hc, hc])
  rw [readUnsigned]
  simp only [hwhole, hend, if_neg hleading]
  split
  · exact absurd rfl hpoint
  · rfl

/-- Without an exponent behind it a whole number is an integer, unless it is zero with a minus
sign. -/
theorem readScaled_integer {negative : Bool} {n : ℕ} (hsign : negative = true → 0 < n)
    {rest : List Char} (hrest : EndsNumber rest) :
    readScaled negative (Text.natChars n) 0 rest = some (.integer (signed negative n), rest) := by
  have hzero : ¬ (negative = true ∧ Text.natChars n = ['0']) := by
    rintro ⟨hnegative, hchars⟩
    have hvalue := Text.ofDigitChars_natChars n
    rw [hchars] at hvalue
    exact absurd hvalue (Nat.ne_of_lt (hsign hnegative))
  unfold readScaled
  split
  · exact absurd (hrest 'e' rfl) (by decide)
  · exact absurd (hrest 'E' rfl) (by decide)
  · rw [if_pos ⟨rfl, hzero⟩, Text.ofDigitChars_natChars]

/-- A magnitude and its sign make up an integer. -/
theorem exists_sign (n : ℤ) :
    ∃ (negative : Bool) (magnitude : ℕ), signed negative magnitude = n ∧
      (negative = true → 0 < magnitude) ∧ ∀ rest, readNumber (Text.intChars n ++ rest) =
        readUnsigned negative (Text.natChars magnitude ++ rest) := by
  cases n with
  | ofNat n =>
    refine ⟨false, n, rfl, by simp, fun rest => ?_⟩
    obtain ⟨c, cs, hchars, hdigit, -⟩ := Text.natChars_eq_cons n
    have hminus : c ≠ '-' := Text.ne_of_test hdigit (by decide)
    rw [Text.intChars, hchars, List.cons_append, readNumber]
    exact fun _ h => absurd (List.cons.inj h).1 hminus
  | negSucc n => exact ⟨true, n + 1, rfl, fun _ => Nat.succ_pos n, fun rest => rfl⟩

/-- An integer is read back where nothing behind it continues it. -/
theorem readNumber_intChars (n : ℤ) {rest : List Char} (hrest : EndsNumber rest) :
    readNumber (Text.intChars n ++ rest) = some (.integer n, rest) := by
  obtain ⟨negative, magnitude, hvalue, hsign, hread⟩ := exists_sign n
  have hpoint : rest.head? ≠ some '.' := fun h => absurd (hrest '.' h) (by decide)
  rw [hread, readUnsigned_natChars _ _ (fun c => hrest.not_isDigit) hpoint,
    readScaled_integer hsign hrest, hvalue]

/-- An exponent is read back where no digit follows it. -/
theorem readExponent_intChars (n : ℤ) {rest : List Char}
    (hrest : ∀ c, rest.head? = some c → ¬ c.isDigit) :
    readExponent (Text.intChars n ++ rest) = some (n, rest) := by
  have hne (k : ℕ) : ¬ (Text.natChars k).isEmpty := by
    obtain ⟨c, cs, hchars, -, -⟩ := Text.natChars_eq_cons k
    simp [hchars]
  cases n with
  | ofNat n =>
    obtain ⟨hwhole, hend⟩ := span_natChars n hrest
    -- digits have no sign in front
    have hunsigned : readExponent (Text.natChars n ++ rest) =
        if ((Text.natChars n ++ rest).takeWhile Char.isDigit).isEmpty then none
        else some ((Nat.ofDigitChars 10 ((Text.natChars n ++ rest).takeWhile Char.isDigit) 0 : ℤ),
          (Text.natChars n ++ rest).dropWhile Char.isDigit) := by
      obtain ⟨c, cs, hchars, hdigit, -⟩ := Text.natChars_eq_cons n
      have hminus : c ≠ '-' := Text.ne_of_test hdigit (by decide)
      have hplus : c ≠ '+' := Text.ne_of_test hdigit (by decide)
      rw [hchars, List.cons_append, readExponent]
      · exact fun _ h => absurd (List.cons.inj h).1 hminus
      · exact fun _ h => absurd (List.cons.inj h).1 hplus
    rw [Text.intChars, hunsigned, hwhole, hend, if_neg (hne n), Text.ofDigitChars_natChars]
    rfl
  | negSucc n =>
    obtain ⟨hwhole, hend⟩ := span_natChars (n + 1) hrest
    rw [Text.intChars, List.cons_append, readExponent, hwhole, hend, if_neg (hne (n + 1)),
      Text.ofDigitChars_natChars]
    rfl

/-- A number with an exponent is read back where no digit follows it. -/
theorem readNumber_decimal (mantissa exponent : ℤ) {rest : List Char}
    (hrest : ∀ c, rest.head? = some c → ¬ c.isDigit) :
    readNumber (Text.intChars mantissa ++ 'e' :: (Text.intChars exponent ++ rest)) =
      some (.decimal mantissa exponent, rest) := by
  obtain ⟨negative, magnitude, hvalue, -, hread⟩ := exists_sign mantissa
  rw [hread, readUnsigned_natChars, readScaled, readExponent_intChars exponent hrest,
    Option.map_some, Text.ofDigitChars_natChars, hvalue]
  · simp
  · intro c hc
    rw [List.head?_cons, Option.some.injEq] at hc
    subst hc
    decide
  · simp

end SoftClock.Json
