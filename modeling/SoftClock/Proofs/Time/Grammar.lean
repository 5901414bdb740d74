import SoftClock.Clock
import SoftClock.Machine.Scripted
import SoftClock.Proofs.Text.Numeral
import SoftClock.Proofs.Time.Exact

/-!
# Times as Texts

A time is written as its seconds, a point and nine digits for the fraction. More is read than is
written: the seconds may carry a plus sign or leading zeros, the fraction may be shorter, and it may
be left out with its point or without.

* `TimeText` is the grammar, which the two parts of a text around its first point decide
  (`Timespec.timeText_iff`).
* `Timespec.parse_eq_ok_iff`: what is read are the texts in the grammar, each as its time;
* `Timespec.parse_format`: a proper time is read back from its own text;
* `Timespec.parse_acceptsTimeTexts` puts this together, with what setting a clock makes of it.
-/

namespace SoftClock

/-- A text in which a time is given: a whole number of seconds, and after a point, if there is one,
at most nine digits for the fraction. -/
inductive TimeText : List Char → ℤ → List Char → Prop
  | whole {seconds : List Char} {sec : ℤ} : Text.Numeral seconds sec → TimeText seconds sec []
  | pointed {seconds fraction : List Char} {sec : ℤ} :
    Text.Numeral seconds sec → fraction.length ≤ 9 → (∀ c ∈ fraction, c.isDigit) →
    TimeText (seconds ++ '.' :: fraction) sec fraction

/-- The seconds fit a signed word. -/
def FitsSignedWord (sec : ℤ) : Prop := -0x8000000000000000 ≤ sec ∧ sec ≤ 0x7fffffffffffffff

instance (sec : ℤ) : Decidable (FitsSignedWord sec) := inferInstanceAs (Decidable (_ ∧ _))

namespace Timespec

/-! ## The parts of a text -/

/-- The text in front of the first point. -/
def secondsPart (text : List Char) : List Char := text.takeWhile (· ≠ '.')

/-- The text behind the first point. -/
def fractionPart (text : List Char) : List Char := (text.dropWhile (· ≠ '.')).drop 1

/-- A text without a point is all in front of it. -/
theorem parts_whole {seconds : List Char} (hpoint : '.' ∉ seconds) :
    secondsPart seconds = seconds ∧ fractionPart seconds = [] := by
  have hspan : secondsPart (seconds ++ []) = seconds ∧ (seconds ++ []).dropWhile (· ≠ '.') = [] :=
    Text.span_of_stop (fun c hc => by simpa using ne_of_mem_of_not_mem hc hpoint) (by simp)
  rw [List.append_nil] at hspan
  exact ⟨hspan.1, by rw [fractionPart, hspan.2]; rfl⟩

/-- A text with a point falls apart there. -/
theorem parts_pointed {seconds : List Char} (hpoint : '.' ∉ seconds) (fraction : List Char) :
    secondsPart (seconds ++ '.' :: fraction) = seconds ∧
      fractionPart (seconds ++ '.' :: fraction) = fraction := by
  have hspan : secondsPart (seconds ++ '.' :: fraction) = seconds ∧
      (seconds ++ '.' :: fraction).dropWhile (· ≠ '.') = '.' :: fraction :=
    Text.span_of_stop (fun c hc => by simpa using ne_of_mem_of_not_mem hc hpoint) (by simp)
  exact ⟨hspan.1, by rw [fractionPart, hspan.2]; rfl⟩

/-- Nothing but the first point is lost. -/
theorem eq_parts (text : List Char) :
    (text = secondsPart text ∧ fractionPart text = []) ∨
      text = secondsPart text ++ '.' :: fractionPart text := by
  have hsplit : secondsPart text ++ text.dropWhile (· ≠ '.') = text :=
    List.takeWhile_append_dropWhile
  cases hrest : text.dropWhile (· ≠ '.') with
  | nil =>
    rw [hrest, List.append_nil] at hsplit
    exact .inl ⟨hsplit.symm, by rw [fractionPart, hrest]; rfl⟩
  | cons c fraction =>
    -- what stops the run is the point
    have hc : c = '.' := by
      have := List.head?_dropWhile_not (· ≠ '.') text
      rw [hrest] at this
      simpa using this
    subst hc
    refine .inr ?_
    rw [fractionPart, hrest]
    rw [hrest] at hsplit
    exact hsplit.symm

/-- A numeral has no point. -/
theorem point_notMem {seconds : List Char} {sec : ℤ} (h : Text.Numeral seconds sec) :
    '.' ∉ seconds := by
  intro hmem
  rcases h.isDigit_or_sign hmem with hdigit | hsign | hsign
  · cases hdigit
  · cases hsign
  · cases hsign

/-- The grammar in terms of the parts around the first point. -/
theorem timeText_iff {text fraction : List Char} {sec : ℤ} :
    TimeText text sec fraction ↔
      Text.Numeral (secondsPart text) sec ∧ fractionPart text = fraction ∧ fraction.length ≤ 9 ∧
        ∀ c ∈ fraction, c.isDigit := by
  constructor
  · intro h
    -- a numeral has no point in it, so the first point ends it
    cases h with
    | whole hnumeral =>
      obtain ⟨hseconds, hfraction⟩ := parts_whole (point_notMem hnumeral)
      rw [hseconds]
      exact ⟨hnumeral, hfraction, by simp, by simp⟩
    | pointed hnumeral hlength hdigits =>
      obtain ⟨hseconds, hfraction⟩ := parts_pointed (point_notMem hnumeral) fraction
      rw [hseconds]
      exact ⟨hnumeral, hfraction, hlength, hdigits⟩
  · rintro ⟨hnumeral, rfl, hlength, hdigits⟩
    rcases eq_parts text with ⟨hseconds, hfraction⟩ | htext
    · rw [← hseconds] at hnumeral
      rw [hfraction]
      exact .whole hnumeral
    · rw [htext]
      have hparts := parts_pointed (point_notMem hnumeral) (fractionPart text)
      rw [hparts.2]
      exact .pointed hnumeral hlength hdigits

/-! ## The fraction -/

/-- The nanoseconds of a fraction are its digits, padded with zeros to nine of them. -/
def paddedNanos (fraction : List Char) : ℕ :=
  Nat.ofDigitChars 10 (fraction ++ List.replicate (9 - fraction.length) '0') 0

theorem paddedNanos_lt {fraction : List Char} (hlength : fraction.length ≤ 9)
    (hdigits : ∀ c ∈ fraction, c.isDigit) : paddedNanos fraction < 1000000000 := by
  have hpadded : ∀ c ∈ fraction ++ List.replicate (9 - fraction.length) '0', c.isDigit := by
    intro c hmem
    rcases List.mem_append.mp hmem with hmem | hmem
    · exact hdigits c hmem
    · rw [List.eq_of_mem_replicate hmem]
      rfl
  have hlt := Text.ofDigitChars_lt hpadded 0
  rw [List.length_append, List.length_replicate, Nat.add_sub_cancel' hlength] at hlt
  exact hlt

/-! ## Reading -/

/-- A text is read by its two parts. -/
theorem parse_eq (text : String) :
    parse text =
      match Text.readInteger (-0x8000000000000000) 0x7fffffffffffffff (secondsPart text.toList) with
      | .error fault => .error (.seconds (secondsPart text.toList) fault)
      | .ok sec =>
        if (fractionPart text.toList).length ≤ 9 ∧ (fractionPart text.toList).all Char.isDigit then
          .ok ⟨.ofInt sec, .ofNat (paddedNanos (fractionPart text.toList))⟩
        else
          .error (.fraction (fractionPart text.toList)) := rfl

/-- What is read are the texts in the grammar, each as the time whose seconds it gives and whose
nanoseconds its padded fraction gives. -/
theorem parse_eq_ok_iff {text : String} {time : Timespec} :
    parse text = .ok time ↔ ∃ fraction, TimeText text.toList time.sec.toInt fraction ∧
      time.nsec.toInt = paddedNanos fraction := by
  have hnsec {fraction : List Char} (hlength : fraction.length ≤ 9)
      (hdigits : ∀ c ∈ fraction, c.isDigit) :
      (Int64.ofNat (paddedNanos fraction)).toInt = paddedNanos fraction := by
    have hlt := paddedNanos_lt hlength hdigits
    exact Int64.toInt_ofNat_of_lt (by omega)
  rw [parse_eq]
  constructor
  · intro h
    split at h
    · cases h
    · rename_i sec hread
      obtain ⟨hnumeral, hlow, hhigh⟩ :=
        (Text.readInteger_eq_ok_iff (by decide) (by decide)).mp hread
      split at h
      · rename_i hfraction
        obtain ⟨hlength, hall⟩ := hfraction
        have hdigits := List.all_eq_true.mp hall
        cases h
        refine ⟨_, timeText_iff.mpr ⟨?_, rfl, hlength, hdigits⟩, hnsec hlength hdigits⟩
        rwa [Int64.toInt_ofInt_of_le hlow (Int.lt_of_le_of_lt hhigh (by decide))]
      · cases h
  · rintro ⟨fraction, htext, hnanos⟩
    obtain ⟨hnumeral, rfl, hlength, hdigits⟩ := timeText_iff.mp htext
    obtain ⟨hlow, hhigh⟩ := toInt_mem_range time.sec
    have hread := (Text.readInteger_eq_ok_iff (by decide) (by decide)).mpr
      ⟨hnumeral, hlow, hhigh⟩
    rw [hread]
    simp only [hlength, List.all_eq_true.mpr hdigits, and_self, if_true]
    -- the two words are known by their numbers
    congr 2
    · exact Int64.ofInt_toInt _
    · rw [← Int64.toInt_inj, hnsec hlength hdigits, hnanos]

/-- A time that is read is proper. -/
theorem isNormalized_of_parse {text : String} {time : Timespec} (h : parse text = .ok time) :
    time.IsNormalized := by
  obtain ⟨fraction, htext, hnsec⟩ := parse_eq_ok_iff.mp h
  obtain ⟨-, -, hlength, hdigits⟩ := timeText_iff.mp htext
  have hlt := paddedNanos_lt hlength hdigits
  show 0 ≤ time.nsec.toInt ∧ time.nsec.toInt < (1000000000 : ℤ)
  omega

/-- Every text in the grammar whose seconds fit a signed word is read. -/
theorem exists_parse {text : String} {sec : ℤ} {fraction : List Char}
    (htext : TimeText text.toList sec fraction) (hfits : FitsSignedWord sec) :
    ∃ time, parse text = .ok time ∧ time.sec.toInt = sec ∧
      time.nsec.toInt = paddedNanos fraction := by
  obtain ⟨hlow, hhigh⟩ := hfits
  obtain ⟨-, -, hlength, hdigits⟩ := timeText_iff.mp htext
  have hlt := paddedNanos_lt hlength hdigits
  have hsec : (Int64.ofInt sec).toInt = sec :=
    Int64.toInt_ofInt_of_le hlow (Int.lt_of_le_of_lt hhigh (by decide))
  have hnsec : (Int64.ofNat (paddedNanos fraction)).toInt = paddedNanos fraction :=
    Int64.toInt_ofNat_of_lt (by omega)
  refine ⟨⟨.ofInt sec, .ofNat (paddedNanos fraction)⟩, ?_, hsec, hnsec⟩
  exact parse_eq_ok_iff.mpr ⟨fraction, by rwa [hsec], hnsec⟩

/-! ## Writing -/

/-- The nanoseconds of a proper time are written with nine digits that stand for them. -/
theorem zeroFilled_nine {n : ℕ} (hlt : n < 1000000000) :
    (Text.zeroFilled 9 n).length = 9 ∧ (∀ c ∈ Text.zeroFilled 9 n, c.isDigit) ∧
      paddedNanos (Text.zeroFilled 9 n) = n := by
  have hpadded : Text.zeroFilled 9 n =
      List.replicate (9 - (Text.natChars n).length) '0' ++ Text.natChars n := rfl
  have hlength : (Text.zeroFilled 9 n).length = 9 := by
    have hle : (Text.natChars n).length ≤ 9 :=
      (Nat.length_toDigits_le_iff (by decide) (by decide)).mpr hlt
    rw [hpadded, List.length_append, List.length_replicate, Nat.sub_add_cancel hle]
  refine ⟨hlength, fun c hmem => ?_, ?_⟩
  · rw [hpadded] at hmem
    rcases List.mem_append.mp hmem with hmem | hmem
    · rw [List.eq_of_mem_replicate hmem]
      rfl
    · exact Text.isDigit_of_mem_natChars hmem
  · -- zeros in front count for nothing, and none are needed behind
    rw [paddedNanos, hlength, hpadded, Nat.sub_self, List.replicate_zero, List.append_nil,
      Nat.ofDigitChars_append, Nat.ofDigitChars_replicate_zero, Nat.mul_zero,
      Text.ofDigitChars_natChars]

/-- A proper time is written in the grammar, and read back as it was. -/
theorem parse_format {time : Timespec} (hproper : time.IsNormalized) :
    parse time.format = .ok time := by
  obtain ⟨hlow, hhigh⟩ := hproper
  obtain ⟨n, hn⟩ := Int.eq_ofNat_of_zero_le hlow
  have hlt : n < 1000000000 := by
    rw [hn] at hhigh
    exact Int.ofNat_lt.mp hhigh
  obtain ⟨hlength, hdigits, hvalue⟩ := zeroFilled_nine hlt
  refine parse_eq_ok_iff.mpr ⟨Text.zeroFilled 9 n, ?_, by rw [hn, hvalue]⟩
  rw [format, String.toList_ofList, hn]
  exact .pointed (Text.numeral_intChars _) hlength.le hdigits

/-! ## The grammar -/

/-- Exactly the texts in the grammar whose seconds fit a signed word are read. What is read has the
seconds of the text and its fraction padded to nanoseconds, so it is proper, and setting the wall
clock to it is left to the machine. Every proper time is read back from its own text. -/
theorem parse_acceptsTimeTexts {σ : Type} (m : Machine σ) (s : σ) :
    (∀ text : String, (∃ time, parse text = .ok time) ↔
        ∃ sec fraction, TimeText text.toList sec fraction ∧ FitsSignedWord sec) ∧
      (∀ (text : String) (sec : ℤ) (fraction : List Char), TimeText text.toList sec fraction →
        FitsSignedWord sec → ∃ time, parse text = .ok time ∧
          time.sec.toInt = sec ∧ time.nsec.toInt = paddedNanos fraction ∧ time.IsNormalized ∧
          Clock.setTime m .realtime time s = m.setWall (.ofTimespec time) s) ∧
      ∀ time : Timespec, time.IsNormalized → parse time.format = .ok time := by
  refine ⟨fun text => ⟨?_, ?_⟩, fun text sec fraction htext hfits => ?_, fun time => parse_format⟩
  · rintro ⟨time, hparse⟩
    obtain ⟨fraction, htext, -⟩ := parse_eq_ok_iff.mp hparse
    exact ⟨_, fraction, htext, toInt_mem_range time.sec⟩
  · rintro ⟨sec, fraction, htext, hfits⟩
    obtain ⟨time, hparse, -⟩ := exists_parse htext hfits
    exact ⟨time, hparse⟩
  · obtain ⟨time, hparse, hsec, hnsec⟩ := exists_parse htext hfits
    have hproper := isNormalized_of_parse hparse
    refine ⟨time, hparse, hsec, hnsec, hproper, ?_⟩
    rw [Clock.setTime, if_pos rfl, if_pos hproper]

/-- Leading zeros and a short fraction are read, and the fraction counts forward from negative
seconds. The earliest second with the largest fraction survives its text. -/
theorem earliest_acceptsTimeTexts :
    TimeText "-007.25".toList (-7) ['2', '5'] ∧ FitsSignedWord (-7) ∧
      parse "-007.25" = .ok ⟨-7, 250000000⟩ ∧
      (⟨-9223372036854775808, 999999999⟩ : Timespec).IsNormalized ∧
      parse (⟨-9223372036854775808, 999999999⟩ : Timespec).format =
        .ok ⟨-9223372036854775808, 999999999⟩ := by
  have hnumeral : Text.Numeral ['-', '0', '0', '7'] (-7) :=
    .minus ⟨by decide, List.all_eq_true.mp rfl, rfl⟩
  have htext : TimeText "-007.25".toList (-7) ['2', '5'] :=
    .pointed hnumeral (by decide) (List.all_eq_true.mp rfl)
  have hfits : FitsSignedWord (-7) := by decide
  have hproper : (⟨-9223372036854775808, 999999999⟩ : Timespec).IsNormalized := by decide
  obtain ⟨-, haccepts, hformat⟩ := parse_acceptsTimeTexts (Script.machine false) {}
  obtain ⟨time, hparse, hsec, hnsec, -, -⟩ := haccepts "-007.25" (-7) ['2', '5'] htext hfits
  refine ⟨htext, hfits, ?_, hproper, hformat _ hproper⟩
  have htime : time = ⟨-7, 250000000⟩ := eq_of_toInt_eq hsec hnsec
  rw [hparse, htime]

end Timespec

end SoftClock
