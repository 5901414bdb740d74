import SoftClock.Proofs.Text.Characters
import Mathlib.Algebra.Group.Nat.Defs
import Mathlib.Data.Int.Notation

/-!
# Decimal Numerals

The texts that stand for a whole number, and what reading them accepts.

* `Text.Digits`: one or more digits and the number that they stand for;
* `Text.Numeral`: the same with an optional sign;
* `Text.readInteger_eq_ok_iff`: what is read are the numerals in range, each as its number;
* `Text.numeral_intChars`: an integer is written as a numeral of itself.
-/

namespace SoftClock.Text

/-- One or more digits, and the number that they stand for. -/
structure Digits (text : List Char) (n : ℕ) : Prop where
  ne_nil : text ≠ []
  isDigit : ∀ c ∈ text, c.isDigit
  value : Nat.ofDigitChars 10 text 0 = n

/-- A whole number in decimal digits, with or without a sign. -/
inductive Numeral : List Char → ℤ → Prop
  | unsigned {digits : List Char} {n : ℕ} : Digits digits n → Numeral digits n
  | plus {digits : List Char} {n : ℕ} : Digits digits n → Numeral ('+' :: digits) n
  | minus {digits : List Char} {n : ℕ} : Digits digits n → Numeral ('-' :: digits) (-n)

/-- Digits behind a plus sign stand for their number. -/
theorem numeral_plus_iff {digits : List Char} {n : ℤ} :
    Numeral ('+' :: digits) n ↔ ∃ k : ℕ, Digits digits k ∧ k = n := by
  constructor
  · intro h
    cases h with
    | unsigned hdigits => exact absurd (hdigits.isDigit '+' List.mem_cons_self) (by decide)
    | plus hdigits => exact ⟨_, hdigits, rfl⟩
  · rintro ⟨k, hdigits, rfl⟩
    exact .plus hdigits

/-- Digits behind a minus sign stand for the opposite of their number. -/
theorem numeral_minus_iff {digits : List Char} {n : ℤ} :
    Numeral ('-' :: digits) n ↔ ∃ k : ℕ, Digits digits k ∧ -(k : ℤ) = n := by
  constructor
  · intro h
    cases h with
    | unsigned hdigits => exact absurd (hdigits.isDigit '-' List.mem_cons_self) (by decide)
    | minus hdigits => exact ⟨_, hdigits, rfl⟩
  · rintro ⟨k, hdigits, rfl⟩
    exact .minus hdigits

/-- A text without a sign in front stands for a number only as digits. -/
theorem numeral_unsigned_iff {text : List Char} {n : ℤ} (hplus : text.head? ≠ some '+')
    (hminus : text.head? ≠ some '-') : Numeral text n ↔ ∃ k : ℕ, Digits text k ∧ k = n := by
  constructor
  · intro h
    cases h with
    | unsigned hdigits => exact ⟨_, hdigits, rfl⟩
    | plus hdigits => exact absurd rfl hplus
    | minus hdigits => exact absurd rfl hminus
  · rintro ⟨k, hdigits, rfl⟩
    exact .unsigned hdigits

/-- Digits stand for a number with at most as many digits. -/
theorem ofDigitChars_lt {digits : List Char} (hdigits : ∀ c ∈ digits, c.isDigit) (acc : ℕ) :
    Nat.ofDigitChars 10 digits acc < 10 ^ digits.length * (acc + 1) := by
  induction digits generalizing acc with
  | nil => simp
  | cons c digits ih =>
    have hc : 48 ≤ c.toNat ∧ c.toNat ≤ 57 :=
      Char.isDigit_iff_toNat.mp (hdigits c List.mem_cons_self)
    rw [Nat.ofDigitChars_cons]
    calc Nat.ofDigitChars 10 digits (10 * acc + (c.toNat - '0'.toNat))
        < 10 ^ digits.length * (10 * acc + (c.toNat - '0'.toNat) + 1) :=
          ih (fun d hd => hdigits d (List.mem_cons_of_mem c hd)) _
      _ ≤ 10 ^ digits.length * (10 * (acc + 1)) := by
          refine Nat.mul_le_mul_left _ ?_
          change 10 * acc + (c.toNat - 48) + 1 ≤ _
          omega
      _ = 10 ^ (c :: digits).length * (acc + 1) := by
          rw [List.length_cons, Nat.pow_succ, Nat.mul_assoc]

/-- A numeral is made of digits, but for a sign in front. -/
theorem Numeral.isDigit_or_sign {text : List Char} {n : ℤ} (h : Numeral text n) {c : Char}
    (hmem : c ∈ text) : c.isDigit ∨ c = '+' ∨ c = '-' := by
  cases h with
  | unsigned hdigits => exact .inl (hdigits.isDigit c hmem)
  | plus hdigits =>
    rcases List.mem_cons.mp hmem with rfl | hmem
    · exact .inr (.inl rfl)
    · exact .inl (hdigits.isDigit c hmem)
  | minus hdigits =>
    rcases List.mem_cons.mp hmem with rfl | hmem
    · exact .inr (.inr rfl)
    · exact .inl (hdigits.isDigit c hmem)

/-! ## Reading -/

/-- What is mapped is an answer if it was one before. -/
theorem map_eq_ok_iff {ε α β : Type} {f : α → β} {x : Except ε α} {b : β} :
    x.map f = .ok b ↔ ∃ a, x = .ok a ∧ f a = b := by
  cases x <;> simp [Except.map]

/-- Digits are read up to the limit. A number that is beyond it stays beyond it, whatever digits
follow. -/
theorem readDigits_eq_ok_iff {limit : ℕ} {beyond : IntegerFault} {acc n : ℕ} {text : List Char}
    (hacc : acc ≤ limit) :
    readDigits limit beyond acc text = .ok n ↔
      (∀ c ∈ text, c.isDigit) ∧ Nat.ofDigitChars 10 text acc = n ∧ n ≤ limit := by
  induction text generalizing acc with
  | nil =>
    simp only [readDigits, Except.ok.injEq, Nat.ofDigitChars_nil]
    constructor
    · rintro rfl
      exact ⟨by simp, rfl, hacc⟩
    · exact fun h => h.2.1
  | cons c rest ih =>
    rw [Nat.ofDigitChars_cons, Nat.mul_comm, List.forall_mem_cons]
    change _ ↔ _ ∧ Nat.ofDigitChars 10 rest (acc * 10 + digitValue c) = n ∧ _
    by_cases hdigit : c.isDigit
    · by_cases hle : acc * 10 + digitValue c ≤ limit
      · rw [readDigits, if_pos hdigit, if_pos hle, ih hle]
        simp only [hdigit, true_and]
      · rw [readDigits, if_pos hdigit, if_neg hle]
        refine ⟨fun h => (by cases h), ?_⟩
        -- no further digit makes the number smaller
        rintro ⟨-, hvalue, hn⟩
        have hmore := le_ofDigitChars rest (acc * 10 + digitValue c)
        omega
    · rw [readDigits, if_neg hdigit]
      exact ⟨fun h => (by cases h), fun h => absurd h.1.1 hdigit⟩

/-- Digits with at least one of them are read up to the limit. -/
theorem readDigits_eq_ok_iff_digits {limit : ℕ} {beyond : IntegerFault} {n : ℕ} {text : List Char}
    (hne : text ≠ []) :
    readDigits limit beyond 0 text = .ok n ↔ Digits text n ∧ n ≤ limit := by
  rw [readDigits_eq_ok_iff (Nat.zero_le limit)]
  constructor
  · rintro ⟨hdigits, hvalue, hle⟩
    exact ⟨⟨hne, hdigits, hvalue⟩, hle⟩
  · rintro ⟨h, hle⟩
    exact ⟨h.isDigit, h.value, hle⟩

/-- Digits behind a sign are read as the magnitude of a number of that sign. -/
theorem readSigned_eq_ok_iff {limit : ℕ} {beyond : IntegerFault} {sign : ℕ → ℤ} {n : ℤ}
    {digits : List Char} :
    (if digits.isEmpty then .error .invalidDigit
      else (readDigits limit beyond 0 digits).map sign : Except IntegerFault ℤ) = .ok n ↔
      ∃ k, Digits digits k ∧ k ≤ limit ∧ sign k = n := by
  by_cases hempty : digits = []
  · subst hempty
    refine ⟨fun h => (by cases h), ?_⟩
    rintro ⟨k, hdigits, -⟩
    exact absurd rfl hdigits.ne_nil
  · rw [if_neg (by simpa using hempty), map_eq_ok_iff]
    simp only [readDigits_eq_ok_iff_digits hempty, and_assoc]

/-- What is read as an integer are the numerals whose number is in range, each as its number. -/
theorem readInteger_eq_ok_iff {lo hi n : ℤ} (hlo : lo ≤ 0) (hhi : 0 ≤ hi) {text : List Char} :
    readInteger lo hi text = .ok n ↔ Numeral text n ∧ lo ≤ n ∧ n ≤ hi := by
  -- a magnitude is compared with the end of the range on its side of zero
  have hpositive (digits : List Char) :
      (∃ k, Digits digits k ∧ k ≤ hi.toNat ∧ (k : ℤ) = n) ↔
        (∃ k : ℕ, Digits digits k ∧ k = n) ∧ lo ≤ n ∧ n ≤ hi := by
    constructor
    · rintro ⟨k, hdigits, hle, rfl⟩
      exact ⟨⟨k, hdigits, rfl⟩, by omega, by omega⟩
    · rintro ⟨⟨k, hdigits, rfl⟩, -, hle⟩
      exact ⟨k, hdigits, by omega, rfl⟩
  have hnegative (digits : List Char) :
      (∃ k, Digits digits k ∧ k ≤ (-lo).toNat ∧ -(k : ℤ) = n) ↔
        (∃ k : ℕ, Digits digits k ∧ -(k : ℤ) = n) ∧ lo ≤ n ∧ n ≤ hi := by
    constructor
    · rintro ⟨k, hdigits, hle, rfl⟩
      exact ⟨⟨k, hdigits, rfl⟩, by omega, by omega⟩
    · rintro ⟨⟨k, hdigits, rfl⟩, hle, -⟩
      exact ⟨k, hdigits, by omega, rfl⟩
  unfold readInteger
  split
  · -- an empty text is no numeral
    rw [numeral_unsigned_iff (by simp) (by simp)]
    refine ⟨fun h => (by cases h), ?_⟩
    rintro ⟨⟨k, hdigits, -⟩, -⟩
    exact absurd rfl hdigits.ne_nil
  · rw [numeral_plus_iff, ← hpositive]
    exact readSigned_eq_ok_iff
  · -- the magnitude becomes an integer before it is negated
    have hcast (read : Except IntegerFault ℕ) :
        (do let k ← read; pure (k : ℤ)).map (fun n => -n) = read.map fun k : ℕ => -(k : ℤ) := by
      cases read <;> rfl
    rw [numeral_minus_iff, ← hnegative, hcast]
    exact readSigned_eq_ok_iff
  · rename_i hne hplus hminus
    have hhead {c : Char} (hsign : ∀ digits, text ≠ c :: digits) : text.head? ≠ some c := by
      intro h
      obtain ⟨digits, htext⟩ := List.head?_eq_some_iff.mp h
      exact hsign digits htext
    rw [numeral_unsigned_iff (hhead hplus) (hhead hminus), ← hpositive, map_eq_ok_iff]
    simp only [readDigits_eq_ok_iff_digits hne, and_assoc]
    rfl

/-! ## Writing -/

/-- A number is written in digits that stand for it. -/
theorem digits_natChars (n : ℕ) : Digits (natChars n) n where
  ne_nil := Nat.toDigits_ne_nil
  isDigit _ hmem := isDigit_of_mem_natChars hmem
  value := ofDigitChars_natChars n

/-- An integer is written as a numeral that stands for it. -/
theorem numeral_intChars (n : ℤ) : Numeral (intChars n) n := by
  cases n with
  | ofNat n => exact .unsigned (digits_natChars n)
  | negSucc n => exact .minus (digits_natChars (n + 1))

end SoftClock.Text
