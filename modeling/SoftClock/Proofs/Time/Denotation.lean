import SoftClock.Proofs.Time.Grammar
import SoftClock.Proofs.Time.Totals
import Mathlib.Algebra.Order.Field.Rat
import Mathlib.Algebra.Order.Archimedean.Basic
import Mathlib.Algebra.Order.Floor.Ring
import Mathlib.Data.Rat.Floor
import Mathlib.Tactic.FieldSimp
import Mathlib.Tactic.Linarith
import Mathlib.Tactic.NormNum
import Mathlib.Tactic.Positivity

/-!
# What a Time Text Writes

A text that is read as a time writes a number of seconds in decimal. The sign goes to the whole
seconds alone, and the fraction counts forward from them, so that below the epoch the time and the
number are different.

* `Text.Decimal` is the number that a text writes;
* `wholeSeconds` and `countForward` are its whole seconds and what the time adds up to;
* `TimeText.exists_decimal`: the grammar of times has the parts of the number;
* `Timespec.exactNanos_eq_countForward`: what is read is the number, counted forward;
* `Timespec.parse_countsForward` says for which numbers this is the number itself, and for which it
  keeps the order.
-/

namespace SoftClock

/-! ## Decimal numbers -/

namespace Text

/-- The number below one that digits behind a point stand for. -/
def fractionOfOne (digits : List Char) : ℚ := Nat.ofDigitChars 10 digits 0 / 10 ^ digits.length

/-- Digits, with or without a fraction behind a point, and the number that they stand for. -/
inductive Magnitude : List Char → ℚ → Prop
  | whole {digits : List Char} {n : ℕ} : Digits digits n → Magnitude digits n
  | pointed {digits fraction : List Char} {n : ℕ} :
    Digits digits n → (∀ c ∈ fraction, c.isDigit) →
    Magnitude (digits ++ '.' :: fraction) (n + fractionOfOne fraction)

/-- A decimal number, with or without a sign. -/
inductive Decimal : List Char → ℚ → Prop
  | unsigned {text : List Char} {q : ℚ} : Magnitude text q → Decimal text q
  | plus {text : List Char} {q : ℚ} : Magnitude text q → Decimal ('+' :: text) q
  | minus {text : List Char} {q : ℚ} : Magnitude text q → Decimal ('-' :: text) (-q)

theorem fractionOfOne_nonneg (digits : List Char) : 0 ≤ fractionOfOne digits := by
  unfold fractionOfOne
  positivity

theorem fractionOfOne_lt_one {digits : List Char} (hdigits : ∀ c ∈ digits, c.isDigit) :
    fractionOfOne digits < 1 := by
  have hlt := ofDigitChars_lt hdigits 0
  rw [Nat.zero_add, Nat.mul_one] at hlt
  rw [fractionOfOne, div_lt_one (by positivity)]
  exact_mod_cast hlt

/-- A magnitude in terms of the parts around the first point. -/
theorem Magnitude.eq_parts {text : List Char} {q : ℚ} (h : Magnitude text q) :
    ∃ n : ℕ, Digits (Timespec.secondsPart text) n ∧
      n + fractionOfOne (Timespec.fractionPart text) = q := by
  cases h with
  | whole hdigits =>
    obtain ⟨hseconds, hfraction⟩ :=
      Timespec.parts_whole (Timespec.point_notMem (.unsigned hdigits))
    refine ⟨_, by rwa [hseconds], ?_⟩
    simp [hfraction, fractionOfOne]
  | pointed hdigits _ =>
    obtain ⟨hseconds, hfraction⟩ :=
      Timespec.parts_pointed (Timespec.point_notMem (.unsigned hdigits)) _
    exact ⟨_, by rwa [hseconds], by rw [hfraction]⟩

/-- Digits stand for one magnitude only. -/
theorem Magnitude.unique {text : List Char} {p q : ℚ} (hp : Magnitude text p)
    (hq : Magnitude text q) : p = q := by
  obtain ⟨n, hn, rfl⟩ := hp.eq_parts
  obtain ⟨k, hk, rfl⟩ := hq.eq_parts
  rw [← hn.value, ← hk.value]

/-- A magnitude starts with a digit. -/
theorem Magnitude.isDigit_of_cons {c : Char} {text : List Char} {q : ℚ}
    (h : Magnitude (c :: text) q) : c.isDigit := by
  generalize htext : c :: text = whole at h
  cases h with
  | whole hdigits =>
    subst htext
    exact hdigits.isDigit c List.mem_cons_self
  | @pointed digits fraction n hdigits _ =>
    cases digits with
    | nil => exact absurd rfl hdigits.ne_nil
    | cons d digits =>
      rw [List.cons_append, List.cons.injEq] at htext
      rw [htext.1]
      exact hdigits.isDigit d List.mem_cons_self

/-- A text writes one number only. -/
theorem Decimal.unique {text : List Char} {p q : ℚ} (hp : Decimal text p) (hq : Decimal text q) :
    p = q := by
  -- a sign is no digit, so the first character tells how the text is to be read
  have hplus {rest : List Char} {r : ℚ} (h : Magnitude ('+' :: rest) r) : False :=
    absurd h.isDigit_of_cons (by decide)
  have hminus {rest : List Char} {r : ℚ} (h : Magnitude ('-' :: rest) r) : False :=
    absurd h.isDigit_of_cons (by decide)
  cases hp with
  | unsigned hp =>
    cases hq with
    | unsigned hq => exact hp.unique hq
    | plus => exact (hplus hp).elim
    | minus => exact (hminus hp).elim
  | plus hp =>
    cases hq with
    | unsigned hq => exact (hplus hq).elim
    | plus hq => exact hp.unique hq
  | minus hp =>
    cases hq with
    | unsigned hq => exact (hminus hq).elim
    | minus hq => rw [hp.unique hq]

end Text

/-! ## Counting forward -/

/-- The whole seconds of a number of seconds, on the side of zero. -/
def wholeSeconds (q : ℚ) : ℤ := if q < 0 then ⌈q⌉ else ⌊q⌋

/-- The whole seconds, and the fraction forward from them. -/
def countForward (q : ℚ) : ℚ := wholeSeconds q + |q - wholeSeconds q|

theorem wholeSeconds_of_neg {q : ℚ} (h : q < 0) : wholeSeconds q = ⌈q⌉ := if_pos h

theorem wholeSeconds_of_nonneg {q : ℚ} (h : 0 ≤ q) : wholeSeconds q = ⌊q⌋ := if_neg (not_lt.mpr h)

/-- The sign does not change what the whole seconds are. -/
theorem wholeSeconds_neg (q : ℚ) : wholeSeconds (-q) = -wholeSeconds q := by
  rcases lt_trichotomy q 0 with hneg | rfl | hpos
  · rw [wholeSeconds_of_neg hneg, wholeSeconds_of_nonneg (by linarith), Int.floor_neg]
  · rfl
  · rw [wholeSeconds_of_nonneg hpos.le, wholeSeconds_of_neg (by linarith), Int.ceil_neg]

/-- The whole seconds of a number, and the size of the rest. -/
structure HasParts (q : ℚ) (sec : ℤ) (rest : ℚ) : Prop where
  sec : sec = wholeSeconds q
  rest : rest = |q - wholeSeconds q|

/-- A magnitude has its digits as whole seconds, and its fraction as the rest. -/
theorem hasParts_add (n : ℕ) {f : ℚ} (hlow : 0 ≤ f) (hhigh : f < 1) : HasParts (n + f) n f := by
  have hwhole : wholeSeconds (n + f) = n := by
    rw [wholeSeconds_of_nonneg (by positivity), Int.floor_natCast_add,
      Int.floor_eq_zero_iff.mpr ⟨hlow, hhigh⟩, add_zero]
  refine ⟨hwhole.symm, ?_⟩
  rw [hwhole, Int.cast_natCast, add_sub_cancel_left, abs_of_nonneg hlow]

/-- The opposite of a number has the opposite whole seconds, and a rest of the same size. -/
theorem HasParts.neg {q rest : ℚ} {sec : ℤ} (h : HasParts q sec rest) :
    HasParts (-q) (-sec) rest := by
  refine ⟨?_, ?_⟩
  · rw [wholeSeconds_neg, h.sec]
  · rw [wholeSeconds_neg, Int.cast_neg, ← neg_sub', abs_neg, h.rest]

/-- The whole seconds are not beyond the number exactly if it is no fraction below zero. -/
theorem wholeSeconds_le_iff {q : ℚ} : (wholeSeconds q : ℚ) ≤ q ↔ 0 ≤ q ∨ q.den = 1 := by
  rcases lt_or_ge q 0 with hneg | hnonneg
  · rw [wholeSeconds_of_neg hneg]
    constructor
    · intro hle
      have hwhole : (⌈q⌉ : ℚ) = q := le_antisymm hle (Int.le_ceil q)
      right
      rw [← hwhole, Rat.den_intCast]
    · rintro (hnonneg | hwhole)
      · exact absurd hneg (not_lt.mpr hnonneg)
      · rw [← (Rat.den_eq_one_iff q).mp hwhole, Int.ceil_intCast]
  · rw [wholeSeconds_of_nonneg hnonneg]
    exact ⟨fun _ => .inl hnonneg, fun _ => Int.floor_le q⟩

/-- Counting forward never makes a number less. -/
theorem le_countForward (q : ℚ) : q ≤ countForward q := by
  have hrest := le_abs_self (q - wholeSeconds q)
  unfold countForward
  linarith

/-- Counting forward keeps the numbers that are no fractions below zero, and no others. -/
theorem countForward_eq_self_iff {q : ℚ} : countForward q = q ↔ 0 ≤ q ∨ q.den = 1 := by
  rw [← wholeSeconds_le_iff, ← sub_nonneg, ← abs_eq_self, countForward]
  constructor <;> intro h <;> linarith

/-- No number from `q` on counts to less than the whole seconds of `q`, if `q` is below zero. -/
theorem wholeSeconds_le_countForward {p q : ℚ} (hneg : q < 0) (hle : q ≤ p) :
    (wholeSeconds q : ℚ) ≤ countForward p := by
  rw [wholeSeconds_of_neg hneg]
  rcases lt_or_ge p 0 with hp | hp
  · have hceil : (⌈q⌉ : ℚ) ≤ ⌈p⌉ := Int.cast_le.mpr (Int.ceil_le_ceil hle)
    have hrest := abs_nonneg (p - ⌈p⌉)
    rw [countForward, wholeSeconds_of_neg hp]
    linarith
  · have hceil : (⌈q⌉ : ℚ) ≤ 0 := by exact_mod_cast Int.ceil_nonpos.mpr hneg.le
    exact hceil.trans (hp.trans (le_countForward p))

/-! ## Reading -/

/-- Digits alone have nothing behind a point. -/
theorem Text.Digits.magnitude {digits : List Char} {n : ℕ} (h : Digits digits n) :
    Magnitude digits (n + fractionOfOne []) := by
  have hzero : fractionOfOne [] = 0 := by simp [fractionOfOne]
  rw [hzero, add_zero]
  exact .whole h

/-- A text in the grammar of times writes a number. Its seconds are the whole seconds of the number
and its fraction is the size of the rest. -/
theorem TimeText.exists_decimal {text fraction : List Char} {sec : ℤ}
    (h : TimeText text sec fraction) :
    ∃ q, Text.Decimal text q ∧ HasParts q sec (Text.fractionOfOne fraction) := by
  have hparts (n : ℕ) (hdigits : ∀ c ∈ fraction, c.isDigit) :=
    hasParts_add n (Text.fractionOfOne_nonneg fraction) (Text.fractionOfOne_lt_one hdigits)
  cases h with
  | whole hnumeral =>
    cases hnumeral with
    | @unsigned _ n hn => exact ⟨_, .unsigned hn.magnitude, hparts n (by simp)⟩
    | @plus _ n hn => exact ⟨_, .plus hn.magnitude, hparts n (by simp)⟩
    | @minus _ n hn => exact ⟨_, .minus hn.magnitude, (hparts n (by simp)).neg⟩
  | pointed hnumeral _ hdigits =>
    cases hnumeral with
    | @unsigned _ n hn => exact ⟨_, .unsigned (.pointed hn hdigits), hparts n hdigits⟩
    | @plus _ n hn => exact ⟨_, .plus (.pointed hn hdigits), hparts n hdigits⟩
    | @minus _ n hn =>
      -- the sign of the text belongs to the fraction as well, though the reader ignores it there
      exact ⟨_, .minus (.pointed hn hdigits), (hparts n hdigits).neg⟩

namespace Timespec

/-- Up to nine digits, padded with zeros, are the nanoseconds of the fraction that they stand for.
-/
theorem paddedNanos_eq {fraction : List Char} (hlength : fraction.length ≤ 9) :
    (paddedNanos fraction : ℚ) = 10 ^ 9 * Text.fractionOfOne fraction := by
  rw [paddedNanos, Nat.ofDigitChars_append, Nat.ofDigitChars_replicate_zero, Text.fractionOfOne,
    ← pow_sub_mul_pow 10 hlength]
  push_cast
  field_simp

/-- A text that is read writes a number. -/
theorem exists_decimal {text : String} {time : Timespec} (hparse : parse text = .ok time) :
    ∃ q, Text.Decimal text.toList q := by
  obtain ⟨fraction, htext, -⟩ := parse_eq_ok_iff.mp hparse
  obtain ⟨q, hq, -⟩ := htext.exists_decimal
  exact ⟨q, hq⟩

/-- What is read has the whole seconds of the number that the text writes as seconds, and the size
of the rest as nanoseconds. -/
theorem parts_of_decimal {text : String} {time : Timespec} {q : ℚ} (hparse : parse text = .ok time)
    (hq : Text.Decimal text.toList q) :
    time.sec.toInt = wholeSeconds q ∧ time.nsec.toInt = 10 ^ 9 * |q - wholeSeconds q| := by
  obtain ⟨fraction, htext, hnsec⟩ := parse_eq_ok_iff.mp hparse
  obtain ⟨-, -, hlength, -⟩ := timeText_iff.mp htext
  obtain ⟨p, hp, hparts⟩ := htext.exists_decimal
  rw [hq.unique hp]
  refine ⟨hparts.sec, ?_⟩
  rw [hnsec, Int.cast_natCast, paddedNanos_eq hlength, hparts.rest]

/-- The total of what is read is the number, counted forward. -/
theorem exactNanos_eq_countForward {text : String} {time : Timespec} {q : ℚ}
    (hparse : parse text = .ok time) (hq : Text.Decimal text.toList q) :
    (time.exactNanos : ℚ) = 10 ^ 9 * countForward q := by
  obtain ⟨hsec, hnsec⟩ := parts_of_decimal hparse hq
  rw [exactNanos, hsec, countForward]
  push_cast
  rw [hnsec]
  ring

/-! ## Order -/

/-- A whole second is proper. -/
theorem isNormalized_second (sec : Int64) : (⟨sec, 0⟩ : Timespec).IsNormalized :=
  ⟨le_rfl, show (0 : ℤ) < 1000000000 by decide⟩

theorem exactNanos_second (sec : Int64) :
    (⟨sec, 0⟩ : Timespec).exactNanos = sec.toInt * 1000000000 := Int.add_zero _

/-- Every text with a number from `q` on is read, if it is, as one of these times. -/
def ReadsFrom (q : ℚ) (times : Timespec → Prop) : Prop :=
  ∀ (text : String) (time : Timespec) (p : ℚ), parse text = .ok time →
    Text.Decimal text.toList p → q ≤ p → times time

/-- The whole seconds of a number have a text of their own. It is among those from the number on if
the number is no fraction above zero. -/
theorem ReadsFrom.second {text : String} {time : Timespec} {q : ℚ} {times : Timespec → Prop}
    (h : ReadsFrom q times) (hparse : parse text = .ok time) (hq : Text.Decimal text.toList q)
    (hle : q ≤ wholeSeconds q) : times ⟨time.sec, 0⟩ := by
  have hread := parse_format (isNormalized_second time.sec)
  obtain ⟨p, hp⟩ := exists_decimal hread
  obtain ⟨hsec, hnsec⟩ := parts_of_decimal hread hp
  refine h _ _ p hread hp ?_
  -- nothing is left of `p` beside its whole seconds, which are those of `q`
  have hrest : p - wholeSeconds p = 0 := by
    have hzero : ((0 : ℤ) : ℚ) = 10 ^ 9 * |p - wholeSeconds p| := hnsec
    rw [← abs_eq_zero]
    push_cast at hzero
    linarith
  rw [sub_eq_zero.mp hrest, ← hsec, (parts_of_decimal hparse hq).1]
  exact hle

/-- What is read keeps the order of the numbers from `q` on exactly if `q` is no fraction below
zero. Such a fraction is read as a time after its own whole seconds. -/
theorem readsFrom_le_iff {text : String} {time : Timespec} {q : ℚ} (hparse : parse text = .ok time)
    (hq : Text.Decimal text.toList q) : ReadsFrom q (time ≤ ·) ↔ 0 ≤ q ∨ q.den = 1 := by
  have hproper := isNormalized_of_parse hparse
  constructor
  · intro horder
    rw [← wholeSeconds_le_iff]
    rcases le_total (wholeSeconds q : ℚ) q with hle | hle
    · exact hle
    · -- the whole seconds are a larger number, so nothing was counted forward from them
      have hsecond := horder.second hparse hq hle
      rw [le_iff_exactNanos_le hproper (isNormalized_second _), exactNanos_second,
        exactNanos] at hsecond
      have hnsec : time.nsec.toInt = 0 := le_antisymm (by omega) hproper.1
      have hrest := (parts_of_decimal hparse hq).2
      rw [hnsec, Int.cast_zero] at hrest
      linarith [neg_abs_le (q - wholeSeconds q)]
  · intro hexact later laterTime p hlater hp hle
    rw [le_iff_exactNanos_le hproper (isNormalized_of_parse hlater), ← Int.cast_le (R := ℚ),
      exactNanos_eq_countForward hparse hq, exactNanos_eq_countForward hlater hp,
      countForward_eq_self_iff.mpr hexact]
    linarith [le_countForward p]

/-- The wall clock, which is set to whole microseconds, keeps that order exactly if `q` is not below
zero or by less than a microsecond below its whole seconds. -/
theorem readsFrom_wall_le_iff {text : String} {time : Timespec} {q : ℚ}
    (hparse : parse text = .ok time) (hq : Text.Decimal text.toList q) :
    ReadsFrom q (fun later => Timeval.ofTimespec time ≤ .ofTimespec later) ↔
      0 ≤ q ∨ ⌈q⌉ - q < 1 / 10 ^ 6 := by
  have hproper := isNormalized_of_parse hparse
  obtain ⟨hsec, hnsec⟩ := parts_of_decimal hparse hq
  rcases lt_or_ge q 0 with hneg | hnonneg
  · -- below zero the nanoseconds are what is missing to the next whole second
    rw [wholeSeconds_of_neg hneg] at hsec
    rw [wholeSeconds_of_neg hneg, abs_sub_comm,
      abs_of_nonneg (sub_nonneg.mpr (Int.le_ceil q))] at hnsec
    have hmicro : (⌈q⌉ : ℚ) - q < 1 / 10 ^ 6 ↔ time.nsec.toInt < 1000 := by
      rw [← Int.cast_lt (R := ℚ), hnsec]
      push_cast
      constructor <;> intro h <;> linarith
    simp only [not_le.mpr hneg, false_or, hmicro]
    constructor
    · intro horder
      have hceil : q ≤ wholeSeconds q := by
        rw [wholeSeconds_of_neg hneg]
        exact Int.le_ceil q
      have hsecond := horder.second hparse hq hceil
      rw [Timeval.ofTimespec_le_iff hproper (isNormalized_second _), exactNanos_second,
        exactNanos, microFloor, microFloor] at hsecond
      omega
    · -- the wall clock is set to the whole second, and no larger number counts to less
      intro hsmall later laterTime p hlater hp hle
      have hwhole : time.sec.toInt * 1000000000 ≤ laterTime.exactNanos := by
        have hcount := wholeSeconds_le_countForward hneg hle
        rw [wholeSeconds_of_neg hneg, ← hsec] at hcount
        rw [← Int.cast_le (R := ℚ), exactNanos_eq_countForward hlater hp]
        push_cast
        linarith
      have hlow := hproper.1
      rw [Timeval.ofTimespec_le_iff hproper (isNormalized_of_parse hlater), exactNanos, microFloor,
        microFloor]
      omega
  · simp only [hnonneg, true_or, iff_true]
    intro later laterTime p hlater hp hle
    have hproper' := isNormalized_of_parse hlater
    have hexact : time ≤ laterTime :=
      (readsFrom_le_iff hparse hq).mpr (.inl hnonneg) later laterTime p hlater hp hle
    rw [le_iff_exactNanos_le hproper hproper'] at hexact
    rw [Timeval.ofTimespec_le_iff hproper hproper', microFloor, microFloor]
    omega

/-! ## Reading and setting -/

/-- How the time that a text is read as follows the number that the text writes. -/
structure CountsForward (text : String) (time : Timespec) (q : ℚ) : Prop where
  decimal (p : ℚ) : Text.Decimal text.toList p ↔ p = q
  sec : time.sec.toInt = wholeSeconds q
  nsec : time.nsec.toInt = 10 ^ 9 * |q - wholeSeconds q|
  exact_iff : (time.exactNanos : ℚ) = 10 ^ 9 * q ↔ 0 ≤ q ∨ q.den = 1
  le_iff : ReadsFrom q (time ≤ ·) ↔ 0 ≤ q ∨ q.den = 1
  wall_le_iff : ReadsFrom q (fun later => Timeval.ofTimespec time ≤ .ofTimespec later) ↔
    0 ≤ q ∨ ⌈q⌉ - q < 1 / 10 ^ 6

/-- A text that is read writes one number of seconds. The time has its whole seconds, on the side of
zero, and the size of the rest as nanoseconds, whatever the sign. So its total is the number, and no
text with a larger number is read as an earlier time, exactly if the number is no fraction below
zero. Setting the wall clock truncates the time to microseconds. -/
theorem parse_countsForward {σ : Type} (m : Machine σ) (s : σ) {text : String} {time : Timespec}
    (hparse : parse text = .ok time) :
    (∃ q, CountsForward text time q) ∧
      Clock.setTime m .realtime time s = m.setWall (.ofTimespec time) s := by
  have hproper := isNormalized_of_parse hparse
  constructor
  · obtain ⟨q, hq⟩ := exists_decimal hparse
    obtain ⟨hsec, hnsec⟩ := parts_of_decimal hparse hq
    refine ⟨q, ⟨fun p => ?_, hsec, hnsec, ?_, readsFrom_le_iff hparse hq,
      readsFrom_wall_le_iff hparse hq⟩⟩
    · constructor
      · exact fun hp => hp.unique hq
      · rintro rfl
        exact hq
    · rw [exactNanos_eq_countForward hparse hq, ← countForward_eq_self_iff]
      constructor <;> intro h <;> linarith
  · rw [Clock.setTime, if_pos rfl, if_pos hproper]

/-- A quarter of a second beyond seven seconds before the epoch is read as a time a quarter of a
second after them. -/
theorem sevenBefore_countsForward :
    parse "-007.25" = .ok ⟨-7, 250000000⟩ ∧
      CountsForward "-007.25" ⟨-7, 250000000⟩ (-29 / 4) ∧
      Clock.setTime (Script.machine false) .realtime ⟨-7, 250000000⟩ {} =
        (Script.machine false).setWall ⟨-7, 250000⟩ {} := by
  have hparse : parse "-007.25" = .ok ⟨-7, 250000000⟩ := by decide
  have hdigits : Text.Digits ['0', '0', '7'] 7 := ⟨by decide, List.all_eq_true.mp rfl, rfl⟩
  have hmagnitude : Text.Magnitude "007.25".toList ((7 : ℕ) + Text.fractionOfOne ['2', '5']) :=
    .pointed hdigits (List.all_eq_true.mp rfl)
  obtain ⟨⟨q, hforward⟩, hset⟩ := parse_countsForward (Script.machine false) {} hparse
  have hq : -((7 : ℕ) + Text.fractionOfOne ['2', '5']) = q :=
    (hforward.decimal _).mp (.minus hmagnitude)
  have hnumber : q = -29 / 4 := by
    have hvalue : Nat.ofDigitChars 10 ['2', '5'] 0 = 25 := rfl
    rw [← hq]
    norm_num [Text.fractionOfOne, hvalue]
  exact ⟨hparse, hnumber ▸ hforward, hset⟩

/-- Half a second before the epoch is read as half a second after it, and sets a later wall clock
than the epoch does. -/
theorem halfBefore_readAfter :
    (Text.Decimal "-0.5".toList (-1 / 2) ∧ parse "-0.5" = .ok ⟨0, 500000000⟩ ∧
        ((⟨0, 500000000⟩ : Timespec).exactNanos : ℚ) ≠ 10 ^ 9 * (-1 / 2)) ∧
      (Text.Decimal "0".toList 0 ∧ parse "0" = .ok ⟨0, 0⟩ ∧ (-1 / 2 : ℚ) ≤ 0 ∧
        ¬ Timeval.ofTimespec ⟨0, 500000000⟩ ≤ Timeval.ofTimespec ⟨0, 0⟩) := by
  have hdigits : Text.Digits ['0'] 0 := ⟨by decide, List.all_eq_true.mp rfl, rfl⟩
  have hhalf : Text.Magnitude "0.5".toList ((0 : ℕ) + Text.fractionOfOne ['5']) :=
    .pointed hdigits (List.all_eq_true.mp rfl)
  have hzero : Text.Magnitude "0".toList (0 : ℕ) := .whole hdigits
  have hnumber : -1 / 2 = -((0 : ℕ) + Text.fractionOfOne ['5']) := by
    have hvalue : Nat.ofDigitChars 10 ['5'] 0 = 5 := rfl
    norm_num [Text.fractionOfOne, hvalue]
  have htotal : (⟨0, 500000000⟩ : Timespec).exactNanos = 500000000 := by decide
  refine ⟨⟨?_, by decide, ?_⟩, ⟨?_, by decide, by norm_num, by decide⟩⟩
  · rw [hnumber]
    exact .minus hhalf
  · rw [htotal]
    norm_num
  · rw [← Nat.cast_zero]
    exact .unsigned hzero

end Timespec

end SoftClock
