import SoftClock.Duration.Text
import SoftClock.Proofs.Text.Characters
import Mathlib.Algebra.BigOperators.Group.List.Basic
import Mathlib.Tactic.Ring

/-!
# Durations Survive Their Text

A duration that is written and read again is the same duration, whatever its length
(`Duration.parse?_format`).

A written duration is a list of counts with units (`Duration.parts`), from which those with a zero
count are left out. Each part is read to its end and added (`Duration.readItems_part`), so what is
read is the sum of the parts, and the parts of a duration sum up to it (`Duration.sum_parts`).
-/

namespace SoftClock.Duration

/-! ## Counts -/

/-- A value that fits a word is kept. -/
theorem word?_eq_some {n : ℕ} (hfits : n < 0x10000000000000000) : word? n = some n := by
  rw [word?, if_pos hfits]

/-- What is left beyond the whole seconds is less than a second. -/
theorem subsecNanos_lt (d : Duration) : d.subsecNanos < 1000000000 := by
  unfold subsecNanos
  omega

/-- Adding seconds and less than a second adds their length. -/
theorem add?_eq (total : Duration) {secs nanos : ℕ} (hsub : nanos < 1000000000) :
    total.add? secs nanos = ofNanos? (total.nanos + secs * 1000000000 + nanos) := by
  have hrest := total.subsecNanos_lt
  rw [add?, word?_eq_some (by omega), Option.bind_some]

/-- An item without a fraction is a whole count. -/
theorem addItem?_none (total : Duration) (count : ℕ) (unit : TimeUnit) :
    total.addItem? count none unit = total.addWhole? count unit :=
  Option.bind_fun_some _

/-- Digits in front continue a whole number. -/
theorem wholePart_digits {digits rest : List Char} {acc : ℕ} (hdigits : ∀ c ∈ digits, c.isDigit)
    (hfits : Nat.ofDigitChars 10 digits acc < 0x10000000000000000) :
    wholePart acc (digits ++ rest) = wholePart (Nat.ofDigitChars 10 digits acc) rest := by
  induction digits generalizing acc with
  | nil => rfl
  | cons c digits ih =>
    rw [Nat.ofDigitChars_cons] at hfits ⊢
    have hle := Text.le_ofDigitChars digits (10 * acc + (c.toNat - '0'.toNat))
    have hword : word? (acc * 10 + Text.digitValue c) =
        some (10 * acc + (c.toNat - '0'.toNat)) := by
      rw [Text.digitValue, Nat.mul_comm, word?_eq_some (by omega)]
    rw [List.cons_append, wholePart, if_pos (hdigits c List.mem_cons_self), hword]
    exact ih (fun d hd => hdigits d (List.mem_cons_of_mem _ hd)) hfits

/-! ## Names of units -/

/-- A letter of a unit is the micro sign or a letter of the alphabet. -/
theorem range_of_isUnitLetter {c : Char} (hletter : isUnitLetter c) :
    c = 'µ' ∨ (65 ≤ c.toNat ∧ c.toNat ≤ 90) ∨ (97 ≤ c.toNat ∧ c.toNat ≤ 122) := by
  have hcases : (c.isUpper || c.isLower || c = 'µ') = true := hletter
  rw [Bool.or_eq_true, Bool.or_eq_true, decide_eq_true_eq] at hcases
  rcases hcases with (hupper | hlower) | hmicro
  · have hrange : 'A'.val ≤ c.val ∧ c.val ≤ 'Z'.val := of_decide_eq_true hupper
    exact .inr (.inl hrange)
  · have hrange := Bool.and_eq_true_iff.mp hlower
    exact .inr (.inr ⟨of_decide_eq_true hrange.1, of_decide_eq_true hrange.2⟩)
  · exact .inl hmicro

/-- A letter of a unit does not continue the count in front of it. -/
theorem endsCount_of_isUnitLetter {c : Char} (hletter : isUnitLetter c) :
    c.isDigit = false ∧ Text.isBlank c = false ∧ c ≠ '.' := by
  rcases range_of_isUnitLetter hletter with rfl | hrange
  · decide
  · refine ⟨?_, ?_, ?_⟩
    · rw [← Bool.not_eq_true, Char.isDigit_iff_toNat]
      show ¬(48 ≤ c.toNat ∧ c.toNat ≤ 57)
      omega
    · simp only [Text.isBlank, Text.blankRanges, List.any_cons, List.any_nil, Bool.or_false,
        Bool.or_eq_false_iff, Bool.and_eq_false_iff, decide_eq_false_iff_not]
      omega
    · rintro rfl
      exact absurd hrange (by decide)

/-- A spelling names a unit, in letters. -/
structure Spells (spelling : String) (unit : TimeUnit) : Prop where
  parse : TimeUnit.parse? spelling.toList = some unit
  letters : Text.MadeOf isUnitLetter spelling

instance (spelling : String) (unit : TimeUnit) : Decidable (Spells spelling unit) :=
  decidable_of_iff
    (TimeUnit.parse? spelling.toList = some unit ∧ Text.MadeOf isUnitLetter spelling)
    ⟨fun h => ⟨h.1, h.2⟩, fun h => ⟨h.parse, h.letters⟩⟩

/-! ## Parts -/

/-- A count with its unit, and how the unit is spelled. -/
structure Part where
  count : ℕ
  unit : TimeUnit
  spelling : String

namespace Part

/-- The text of a part. -/
def text (p : Part) : List Char := Text.natChars p.count ++ p.spelling.toList

/-- The length of a part. -/
def nanos (p : Part) : ℕ := p.count * p.unit.nanos

/-- A part whose unit is spelled as one, and which is less than a second if its unit is. -/
structure Valid (p : Part) : Prop where
  spells : Spells p.spelling p.unit
  subsecond : p.unit.wholeGrain = 1 → p.nanos < 1000000000

/-- A unit is a whole number of the grains in which its whole counts are kept. -/
theorem grain_cases (unit : TimeUnit) :
    (unit.wholeGrain = 1 ∧ 1 ≤ unit.nanos) ∨
      (unit.wholeGrain = 1000000000 ∧ 1 ≤ unit.nanos / 1000000000 ∧
        unit.nanos = unit.nanos / 1000000000 * 1000000000) := by
  cases unit <;> decide

variable {p : Part}

/-- A part of a duration has a count that fits a word. -/
theorem count_lt (hvalid : p.Valid)
    (hfits : p.nanos < 0x10000000000000000 * 1000000000) : p.count < 0x10000000000000000 := by
  have hle : p.count ≤ p.count * p.unit.nanos := by
    refine Nat.le_mul_of_pos_right _ ?_
    rcases grain_cases p.unit with ⟨-, hpos⟩ | ⟨-, hpos, heq⟩ <;> omega
  rcases grain_cases p.unit with ⟨hgrain, -⟩ | ⟨-, hpos, heq⟩
  · have hlt := hvalid.subsecond hgrain
    rw [nanos] at hlt
    omega
  · have hmul : p.count * 1000000000 ≤ p.count * p.unit.nanos :=
      Nat.mul_le_mul_left _ (by omega)
    rw [nanos] at hfits
    omega

/-- Adding a part adds its length. -/
theorem addItem?_eq (hvalid : p.Valid) (total : Duration)
    (hfits : p.nanos < 0x10000000000000000 * 1000000000) :
    total.addItem? p.count none p.unit = ofNanos? (total.nanos + p.nanos) := by
  rw [addItem?_none, addWhole?]
  rcases grain_cases p.unit with ⟨hgrain, -⟩ | ⟨hgrain, -, heq⟩
  · have hlt := hvalid.subsecond hgrain
    rw [hgrain, Nat.div_one, ← nanos, word?_eq_some (by omega), Option.bind_some, addGrains?,
      if_pos rfl, add?_eq total hlt, Nat.zero_mul, Nat.add_zero]
  · have hsecs : p.count * (p.unit.nanos / 1000000000) * 1000000000 = p.nanos := by
      rw [Nat.mul_assoc, ← heq, nanos]
    rw [hgrain, word?_eq_some (by omega), Option.bind_some, addGrains?, if_neg (by decide),
      add?_eq total (by decide), hsecs, Nat.add_zero]

/-- The count of a part is read up to its unit. -/
theorem countPart_text (hvalid : p.Valid) (hcount : p.count < 0x10000000000000000)
    (tail : List Char) :
    countPart (p.text ++ tail) = some (p.count, none, p.spelling.toList ++ tail) := by
  obtain ⟨c, cs, hspelling⟩ := List.exists_cons_of_ne_nil hvalid.spells.letters.ne_nil
  have hletter := hvalid.spells.letters.pass c (by rw [hspelling]; exact List.mem_cons_self)
  obtain ⟨hdigit, hblank, hpoint⟩ := endsCount_of_isUnitLetter hletter
  have hwhole : wholePart 0 (p.text ++ tail) = some (p.count, c :: (cs ++ tail)) := by
    rw [text, List.append_assoc, wholePart_digits (fun c hc => Text.isDigit_of_mem_natChars hc)
      (by rw [Text.ofDigitChars_natChars]; exact hcount), Text.ofDigitChars_natChars, hspelling]
    simp [wholePart, hdigit, hblank]
  unfold countPart
  rw [hwhole, hspelling]
  simp [hpoint]

/-- A part starts with a digit that is not zero, if its count is not. -/
theorem text_eq_cons (p : Part) :
    ∃ c cs, p.text = c :: cs ∧ c.isDigit ∧ (0 < p.count → c ≠ '0') := by
  obtain ⟨c, cs, hchars, hdigit, -⟩ := Text.natChars_eq_cons p.count
  refine ⟨c, cs ++ p.spelling.toList, by rw [text, hchars]; rfl, hdigit, ?_⟩
  rintro hpos rfl
  exact Text.head_natChars_ne_zero hpos (by rw [hchars]; rfl)

end Part

/-! ## Reading parts -/

/-- The text of parts with a space between them. -/
def joined (parts : List Part) : List Char := [' '].intercalate (parts.map Part.text)

/-- The joined text of several parts. -/
theorem joined_cons_cons (p q : Part) (parts : List Part) :
    joined (p :: q :: parts) = p.text ++ ' ' :: joined (q :: parts) := by
  simp [joined, List.intercalate]

/-- A space in front of items is skipped. -/
theorem readItems_space (fuel : ℕ) (total : Duration) (text : List Char) :
    readItems fuel total (' ' :: text) = readItems fuel total text := by
  cases fuel with
  | zero => rfl
  | succ fuel =>
    have hskip : (' ' :: text).dropWhile Text.isBlank = text.dropWhile Text.isBlank :=
      List.dropWhile_cons_of_pos (by decide)
    rw [readItems, readItems, hskip]

/-- A part in front of the end, or of a space, is read to its end and added. -/
theorem readItems_part {p : Part} (hvalid : p.Valid) (total : Duration)
    (hfits : total.nanos + p.nanos < 0x10000000000000000 * 1000000000) {tail : List Char}
    (htail : tail = [] ∨ ∃ rest, tail = ' ' :: rest) (fuel : ℕ) :
    readItems (fuel + 1) total (p.text ++ tail) =
      if tail = [] then some ⟨total.nanos + p.nanos, hfits⟩
      else readItems fuel ⟨total.nanos + p.nanos, hfits⟩ tail := by
  obtain ⟨c, cs, htext, hdigit, -⟩ := p.text_eq_cons
  have hcount := Part.countPart_text hvalid (Part.count_lt hvalid (by omega)) tail
  have hadd : total.addItem? p.count none p.unit = some ⟨total.nanos + p.nanos, hfits⟩ := by
    rw [Part.addItem?_eq hvalid total (by omega), ofNanos?, dif_pos hfits]
  -- the letters of the unit end where the part does
  have hstop : ∀ c, tail.head? = some c → isUnitLetter c = false := by
    rcases htail with rfl | ⟨rest, rfl⟩
    · intro c hc
      cases hc
    · intro c hc
      cases hc
      decide
  obtain ⟨htake, hdrop⟩ := Text.span_of_stop hvalid.spells.letters.pass hstop
  rw [htext, List.cons_append] at hcount ⊢
  rw [readItems, List.dropWhile_cons_of_neg (by simp [Text.isBlank_of_isDigit hdigit])]
  simp only [hdigit, if_true, hcount, htake, hvalid.spells.parse, hadd, hdrop]
  rcases htail with rfl | ⟨rest, rfl⟩
  · rfl
  · simp [show Text.isBlank ' ' = true by decide]

/-- Parts are read as their sum. -/
theorem readItems_joined {parts : List Part} (hne : parts ≠ []) (hvalid : ∀ p ∈ parts, p.Valid)
    {total : Duration} {fuel : ℕ} (hfuel : (joined parts).length < fuel)
    (hfits : total.nanos + (parts.map Part.nanos).sum < 0x10000000000000000 * 1000000000) :
    readItems fuel total (joined parts) =
      some ⟨total.nanos + (parts.map Part.nanos).sum, hfits⟩ := by
  induction parts generalizing total fuel with
  | nil => exact absurd rfl hne
  | cons p parts ih =>
    obtain ⟨fuel, rfl⟩ : ∃ n, fuel = n + 1 := Nat.exists_eq_add_one.mpr (by omega)
    have hp := hvalid p List.mem_cons_self
    simp only [List.map_cons, List.sum_cons] at hfits ⊢
    cases parts with
    | nil =>
      have hlast := readItems_part hp total (by omega) (.inl rfl) fuel
      rw [List.append_nil, if_pos rfl] at hlast
      simpa [joined] using hlast
    | cons q parts =>
      obtain ⟨c, cs, htext, -⟩ := p.text_eq_cons
      rw [joined_cons_cons] at hfuel ⊢
      rw [readItems_part hp total (by omega) (.inr ⟨_, rfl⟩) fuel, if_neg (by simp),
        readItems_space]
      -- the text of a part is not empty, so the rest has fuel left
      have hrest : (joined (q :: parts)).length < fuel := by
        rw [htext] at hfuel
        simp only [List.cons_append, List.length_cons, List.length_append] at hfuel
        omega
      rw [ih (by simp) (fun p hp => hvalid p (List.mem_cons_of_mem _ hp)) hrest
        (by rw [Nat.add_assoc]; exact hfits)]
      simp only [Nat.add_assoc]

/-! ## Writing parts -/

/-- The parts of a duration, longest unit first. -/
def parts (d : Duration) : List Part :=
  let years := d.secs / 31557600
  let months := d.secs % 31557600 / 2630016
  let days := d.secs % 31557600 % 2630016 / 86400
  let daySecs := d.secs % 31557600 % 2630016 % 86400
  [⟨years, .year, if years = 1 then "year" else "years"⟩,
    ⟨months, .month, if months = 1 then "month" else "months"⟩,
    ⟨days, .day, if days = 1 then "day" else "days"⟩,
    ⟨daySecs / 3600, .hour, "h"⟩,
    ⟨daySecs % 3600 / 60, .minute, "m"⟩,
    ⟨daySecs % 60, .second, "s"⟩,
    ⟨d.subsecNanos / 1000000, .millisecond, "ms"⟩,
    ⟨d.subsecNanos / 1000 % 1000, .microsecond, "us"⟩,
    ⟨d.subsecNanos % 1000, .nanosecond, "ns"⟩]

/-- Seconds are the sum of their years, months, days, hours, minutes and seconds. -/
theorem secs_split (secs : ℕ) :
    secs / 31557600 * 31557600 + secs % 31557600 / 2630016 * 2630016 +
      secs % 31557600 % 2630016 / 86400 * 86400 +
      secs % 31557600 % 2630016 % 86400 / 3600 * 3600 +
      secs % 31557600 % 2630016 % 86400 % 3600 / 60 * 60 +
      secs % 31557600 % 2630016 % 86400 % 60 = secs := by
  omega

/-- Nanoseconds are the sum of their milliseconds, microseconds and nanoseconds. -/
theorem subsec_split (sub : ℕ) :
    sub / 1000000 * 1000000 + sub / 1000 % 1000 * 1000 + sub % 1000 = sub := by
  omega

/-- The parts of a duration sum up to it. -/
theorem sum_parts (d : Duration) : (d.parts.map Part.nanos).sum = d.nanos := by
  have hnanos : 1000000000 * d.secs + d.subsecNanos = d.nanos := Nat.div_add_mod _ _
  have hmap : d.parts.map Part.nanos =
      [d.secs / 31557600 * (31557600 * 1000000000),
        d.secs % 31557600 / 2630016 * (2630016 * 1000000000),
        d.secs % 31557600 % 2630016 / 86400 * (86400 * 1000000000),
        d.secs % 31557600 % 2630016 % 86400 / 3600 * (3600 * 1000000000),
        d.secs % 31557600 % 2630016 % 86400 % 3600 / 60 * (60 * 1000000000),
        d.secs % 31557600 % 2630016 % 86400 % 60 * 1000000000,
        d.subsecNanos / 1000000 * 1000000,
        d.subsecNanos / 1000 % 1000 * 1000,
        d.subsecNanos % 1000 * 1] := rfl
  conv_rhs => rw [← hnanos, ← secs_split d.secs, ← subsec_split d.subsecNanos]
  -- the sum is opened by rewriting alone: the kernel must not count the large factors down
  rw [hmap]
  repeat rw [List.sum_cons]
  rw [List.sum_nil]
  ring

/-- The parts of a duration are spelled as units, and the last three are less than a second. -/
theorem valid_of_mem_parts {d : Duration} {p : Part} (hmem : p ∈ d.parts) : p.Valid := by
  have hsub : d.subsecNanos < 1000000000 := d.subsecNanos_lt
  have hspells {one many : String} {unit : TimeUnit} (hone : Spells one unit)
      (hmany : Spells many unit) (count : ℕ) : Spells (if count = 1 then one else many) unit := by
    split <;> assumption
  have hsecs {count : ℕ} {unit : TimeUnit} {spelling : String} (hspells : Spells spelling unit)
      (hgrain : unit.wholeGrain ≠ 1) : Part.Valid ⟨count, unit, spelling⟩ :=
    ⟨hspells, fun h => absurd h hgrain⟩
  -- six units of whole seconds, then three that divide the rest
  simp only [parts, List.mem_cons, List.not_mem_nil, or_false] at hmem
  rcases hmem with rfl | rfl | rfl | rfl | rfl | rfl | rfl | rfl | rfl
  · exact hsecs (hspells (by decide +kernel) (by decide +kernel) _) (by decide)
  · exact hsecs (hspells (by decide +kernel) (by decide +kernel) _) (by decide)
  · exact hsecs (hspells (by decide +kernel) (by decide +kernel) _) (by decide)
  · exact hsecs (by decide +kernel) (by decide)
  · exact hsecs (by decide +kernel) (by decide)
  · exact hsecs (by decide +kernel) (by decide)
  · refine ⟨by dsimp only; decide +kernel, fun _ => ?_⟩
    show d.subsecNanos / 1000000 * 1000000 < 1000000000
    omega
  · refine ⟨by dsimp only; decide +kernel, fun _ => ?_⟩
    show d.subsecNanos / 1000 % 1000 * 1000 < 1000000000
    omega
  · refine ⟨by dsimp only; decide +kernel, fun _ => ?_⟩
    show d.subsecNanos % 1000 * 1 < 1000000000
    omega

/-- The parts of a duration that are written. -/
def written (d : Duration) : List Part := d.parts.filter fun p => 0 < p.count

/-- The parts that are left out do not count. -/
theorem sum_written (d : Duration) : (d.written.map Part.nanos).sum = d.nanos := by
  rw [← d.sum_parts, written]
  generalize d.parts = parts
  induction parts with
  | nil => rfl
  | cons p parts ih =>
    rw [List.filter_cons, List.map_cons, List.sum_cons, ← ih]
    split
    · rw [List.map_cons, List.sum_cons]
    · rename_i hzero
      have hcount : p.count = 0 := by simpa using hzero
      rw [Part.nanos, hcount, Nat.zero_mul, Nat.zero_add]

/-- The items of a duration are the texts of its written parts. -/
theorem items_eq (d : Duration) : d.items = d.written.map Part.text := by
  have hitem (p : Part) : item p.count p.spelling = if 0 < p.count then some p.text else none := by
    rw [item, Part.text]
    by_cases hzero : p.count = 0
    · rw [if_pos hzero, if_neg (by omega)]
    · rw [if_neg hzero, if_pos (by omega)]
  have hitems : d.items = (d.parts.map fun p => item p.count p.spelling).filterMap id := rfl
  rw [hitems, written, List.filterMap_map]
  generalize d.parts = parts
  induction parts with
  | nil => rfl
  | cons p parts ih =>
    rw [List.filterMap_cons, List.filter_cons, Function.comp_apply, hitem, ih]
    by_cases hpos : 0 < p.count <;> simp [hpos]

/-- The text of written parts starts with a digit that is not zero. -/
theorem joined_eq_cons {parts : List Part} (hne : parts ≠ []) (hpos : ∀ p ∈ parts, 0 < p.count) :
    ∃ c cs, joined parts = c :: cs ∧ c.isDigit ∧ c ≠ '0' := by
  cases parts with
  | nil => exact absurd rfl hne
  | cons p parts =>
    obtain ⟨c, cs, htext, hdigit, hzero⟩ := p.text_eq_cons
    have hc := hzero (hpos p List.mem_cons_self)
    cases parts with
    | nil => exact ⟨c, cs, by simpa [joined] using htext, hdigit, hc⟩
    | cons q parts => exact ⟨c, _, by rw [joined_cons_cons, htext]; rfl, hdigit, hc⟩

section Written

variable {d : Duration} {p : Part}

/-- A written part is a proper part. -/
theorem valid_of_mem_written (hmem : p ∈ d.written) : p.Valid :=
  valid_of_mem_parts (List.mem_filter.mp hmem).1

/-- A written part has a count. -/
theorem pos_of_mem_written (hmem : p ∈ d.written) : 0 < p.count :=
  of_decide_eq_true (List.mem_filter.mp hmem).2

/-- A duration that is not empty has a written part. -/
theorem written_ne_nil (d : Duration) (hzero : d.nanos ≠ 0) : d.written ≠ [] := by
  intro hnil
  rw [← d.sum_written, hnil] at hzero
  exact hzero rfl

/-- The text of a duration that is not empty is that of its written parts. -/
theorem format_eq_joined (d : Duration) (hzero : d.nanos ≠ 0) :
    d.format = String.ofList (joined d.written) := by
  rw [format, if_neg hzero, items_eq]
  rfl

end Written

/-- A duration is read back as it was written. -/
theorem parse?_format (d : Duration) : Duration.parse? d.format = some d := by
  by_cases hzero : d.nanos = 0
  · have hd : d = zero := by
      obtain ⟨nanos, hlt⟩ := d
      cases hzero
      rfl
    rw [hd]
    decide +kernel
  have hne := d.written_ne_nil hzero
  have hsum : zero.nanos + (d.written.map Part.nanos).sum = d.nanos := by
    rw [sum_written]
    exact Nat.zero_add _
  have hfits : zero.nanos + (d.written.map Part.nanos).sum < 0x10000000000000000 * 1000000000 := by
    rw [hsum]
    exact d.isLt
  have hread := readItems_joined hne (fun p => valid_of_mem_written) (Nat.lt_succ_self _) hfits
  obtain ⟨c, cs, htext, hdigit, hc⟩ := joined_eq_cons hne fun p => pos_of_mem_written
  -- such a text is neither a lone zero nor blank
  have hlone : String.ofList (joined d.written) ≠ "0" := by
    intro hlone
    have hchars := congrArg String.toList hlone
    rw [String.toList_ofList, htext] at hchars
    exact hc (List.cons.inj hchars).1
  rw [d.format_eq_joined hzero, parse?, if_neg hlone, String.toList_ofList, hread, if_neg]
  · simp only [hsum]
  · simp [htext, Text.isBlank_of_isDigit hdigit]

end SoftClock.Duration
