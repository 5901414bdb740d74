import SoftClock.Text.Blank
import SoftClock.Text.Integer
import Mathlib.Data.Nat.Notation

/-!
# Characters and Digits

Facts about texts that readers and writers of several formats need.

* A run of characters that pass a test ends at the first one that does not (`Text.span_of_stop`).
* A number is written with digits only, at least one of them, the first of them not zero but for
  zero itself, and they stand for the number.
-/

namespace SoftClock.Text

/-- Characters that a test tells apart are different. -/
theorem ne_of_test {test : Char → Bool} {c d : Char} (hc : test c) (hd : test d = false) :
    c ≠ d := by
  rintro rfl
  rw [hd] at hc
  cases hc

/-- A run of characters that pass a test ends where the next one does not pass it. -/
theorem span_of_stop {test : Char → Bool} {run tail : List Char} (hrun : ∀ c ∈ run, test c)
    (hstop : ∀ c, tail.head? = some c → test c = false) :
    (run ++ tail).takeWhile test = run ∧ (run ++ tail).dropWhile test = tail := by
  rw [List.takeWhile_append_of_pos hrun, List.dropWhile_append_of_pos hrun]
  cases tail with
  | nil => exact ⟨List.append_nil run, rfl⟩
  | cons c tail =>
    have hc := hstop c rfl
    rw [List.takeWhile_cons_of_neg (by simp [hc]), List.dropWhile_cons_of_neg (by simp [hc])]
    exact ⟨List.append_nil run, rfl⟩

/-- A text of one or more characters, all of which pass a test. -/
structure MadeOf (test : Char → Bool) (text : String) : Prop where
  ne_nil : text.toList ≠ []
  pass : ∀ c ∈ text.toList, test c

instance (test : Char → Bool) (text : String) : Decidable (MadeOf test text) :=
  decidable_of_iff ((!text.toList.isEmpty && text.toList.all test) = true)
    (by
      rw [Bool.and_eq_true, Bool.not_eq_true', List.isEmpty_eq_false_iff, List.all_eq_true]
      exact ⟨fun h => ⟨h.1, h.2⟩, fun h => ⟨h.ne_nil, h.pass⟩⟩)

/-! ## Digits -/

/-- A number is written with digits only. -/
theorem isDigit_of_mem_natChars {n : ℕ} {c : Char} (hmem : c ∈ natChars n) : c.isDigit :=
  Nat.isDigit_of_mem_toDigits (by decide) (by decide) hmem

/-- The digits of a number stand for it. -/
theorem ofDigitChars_natChars (n : ℕ) : Nat.ofDigitChars 10 (natChars n) 0 = n :=
  Nat.ofDigitChars_ten_toDigits

/-- Only zero is written with a zero in front. -/
theorem head_natChars_ne_zero {n : ℕ} (hpos : 0 < n) : (natChars n).head? ≠ some '0' := by
  induction n using Nat.strongRecOn with
  | ind n ih =>
    rw [natChars, Nat.toDigits_eq_if (by decide)]
    split
    · rename_i hlt
      have hdigits : ∀ n < 10, 0 < n → [n.digitChar].head? ≠ some '0' := by decide
      exact hdigits n hlt hpos
    · rename_i hle
      obtain ⟨c, cs, hchars⟩ : ∃ c cs, Nat.toDigits 10 (n / 10) = c :: cs :=
        List.exists_cons_of_ne_nil Nat.toDigits_ne_nil
      have hhead := ih (n / 10) (by omega) (by omega)
      rw [natChars, hchars] at hhead
      rw [hchars]
      exact hhead

/-- A number starts with a digit, and goes on only if that is not zero. -/
theorem natChars_eq_cons (n : ℕ) :
    ∃ c cs, natChars n = c :: cs ∧ c.isDigit ∧ (c = '0' → cs = []) := by
  cases hchars : natChars n with
  | nil => exact absurd hchars Nat.toDigits_ne_nil
  | cons c cs =>
    refine ⟨c, cs, rfl, isDigit_of_mem_natChars (n := n) (by simp [hchars]), ?_⟩
    rintro rfl
    rcases Nat.eq_zero_or_pos n with rfl | hpos
    · cases hchars
      rfl
    · exact absurd (by rw [hchars]; rfl) (head_natChars_ne_zero hpos)

/-- Further digits do not make a number smaller. -/
theorem le_ofDigitChars (digits : List Char) (acc : ℕ) : acc ≤ Nat.ofDigitChars 10 digits acc := by
  have hpow : 0 < 10 ^ digits.length := Nat.pow_pos (by decide)
  rw [Nat.ofDigitChars_eq_ofDigitChars_zero]
  exact Nat.le_trans (Nat.le_mul_of_pos_left acc hpow) (Nat.le_add_right _ _)

/-- Digits are no white space. -/
theorem isBlank_of_isDigit {c : Char} (hdigit : c.isDigit) : isBlank c = false := by
  rw [Char.isDigit_iff_toNat] at hdigit
  have hrange : 48 ≤ c.toNat ∧ c.toNat ≤ 57 := hdigit
  simp only [isBlank, blankRanges, List.any_cons, List.any_nil, Bool.or_false, Bool.or_eq_false_iff,
    Bool.and_eq_false_iff, decide_eq_false_iff_not]
  omega

end SoftClock.Text
