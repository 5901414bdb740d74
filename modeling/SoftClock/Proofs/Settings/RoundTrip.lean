import SoftClock.Proofs.Duration.RoundTrip
import SoftClock.Proofs.Toml.Lines
import SoftClock.Settings.Document

/-!
# Settings Survive Their Document

Settings that are written and read again are the same settings, or are refused for the very value
that their own check refuses (`Settings.ofToml_toToml`).

The document is one plain line for each value (`Settings.lines`), so reading it gives their entries
in order, and each entry is decoded to the value that was written (`Settings.ofEntries?_lines`).
-/

namespace SoftClock

/-! ## Texts that stand for themselves -/

/-- A printable character other than the two marks stands for itself between quotation marks. -/
theorem Toml.isBasicChar_of_range {c : Char} (hlow : 0x23 ≤ c.toNat) (hhigh : c.toNat < 0x7f)
    (hescape : c ≠ '\\') : isBasicChar c := by
  have hmark : c ≠ '"' := by
    rintro rfl
    exact absurd hlow (by decide)
  simp only [isBasicChar, isCommentChar, Bool.and_eq_true, Bool.or_eq_true, decide_eq_true_eq]
  exact ⟨⟨.inr ⟨by omega, by omega⟩, hmark⟩, hescape⟩

namespace Duration

/-- Digits stand for themselves between quotation marks. -/
theorem isBasicChar_of_isDigit {c : Char} (hdigit : c.isDigit) : Toml.isBasicChar c := by
  have hrange : 48 ≤ c.toNat ∧ c.toNat ≤ 57 := Char.isDigit_iff_toNat.mp hdigit
  exact Toml.isBasicChar_of_range (by omega) (by omega) (Text.ne_of_test hdigit (by decide))

/-- Letters of units stand for themselves between quotation marks. -/
theorem isBasicChar_of_isUnitLetter {c : Char} (hletter : isUnitLetter c) :
    Toml.isBasicChar c := by
  rcases range_of_isUnitLetter hletter with rfl | hrange
  · decide
  · refine Toml.isBasicChar_of_range (by omega) (by omega) ?_
    rintro rfl
    exact absurd hrange (by decide)

/-- Joined parts are made of digits, letters and spaces. -/
theorem isBasicChar_of_mem_joined {parts : List Part} (hvalid : ∀ p ∈ parts, p.Valid) {c : Char}
    (hmem : c ∈ joined parts) : Toml.isBasicChar c := by
  have htext {p : Part} (hp : p.Valid) (hc : c ∈ p.text) : Toml.isBasicChar c := by
    rcases List.mem_append.mp hc with hc | hc
    · exact isBasicChar_of_isDigit (Text.isDigit_of_mem_natChars hc)
    · exact isBasicChar_of_isUnitLetter (hp.spells.letters.pass c hc)
  induction parts with
  | nil => cases hmem
  | cons p parts ih =>
    have hp := hvalid p List.mem_cons_self
    cases parts with
    | nil => exact htext hp (by simpa [joined] using hmem)
    | cons q parts =>
      rw [joined_cons_cons] at hmem
      rcases List.mem_append.mp hmem with hc | hc
      · exact htext hp hc
      · rcases List.mem_cons.mp hc with rfl | hc
        · decide
        · exact ih (fun p hp => hvalid p (List.mem_cons_of_mem _ hp)) hc

/-- The text of a duration is not empty, and stands for itself between quotation marks. -/
theorem format_basic (d : Duration) : Text.MadeOf Toml.isBasicChar d.format := by
  by_cases hzero : d.nanos = 0
  · rw [format, if_pos hzero]
    decide +kernel
  · obtain ⟨c, cs, htext, -⟩ := joined_eq_cons (d.written_ne_nil hzero) fun p => pos_of_mem_written
    rw [d.format_eq_joined hzero]
    refine ⟨by simp [htext], fun c hmem => ?_⟩
    rw [String.toList_ofList] at hmem
    exact isBasicChar_of_mem_joined (fun p => valid_of_mem_written) hmem

end Duration

/-! ## Lines of settings -/

namespace Toml.Line

/-- A line with a number. -/
def number (key : String) (n : UInt32) : Line := ⟨key, Text.natChars n.toNat, .integer n.toNat⟩

/-- A line with a text between quotation marks. -/
def quoted (key text : String) : Line := ⟨key, '"' :: (text.toList ++ ['"']), .string text⟩

/-- A line with a truth value. -/
def truth (key : String) (value : Bool) : Line := ⟨key, (tomlBool value).toList, .boolean value⟩

variable {key : String}

/-- A line with a number is plain. -/
theorem plain_number (hkey : Text.MadeOf isBareKeyChar key) (n : UInt32) :
    (number key n).Plain := by
  obtain ⟨c, cs, hchars, hdigit, -⟩ := Text.natChars_eq_cons n.toNat
  have hlt := n.toNat_lt
  have hne {d : Char} (hd : d.isDigit = false) : c ≠ d := Text.ne_of_test hdigit hd
  refine ⟨hkey, ⟨c, cs, hchars, ?_⟩, fun rest => readScalar_natChars rest (by omega)⟩
  exact ⟨hne (by decide), hne (by decide),
    by simp [isSpace, hne (d := ' ') (by decide), hne (d := '\t') (by decide)]⟩

/-- A line with a text that stands for itself is plain. -/
theorem plain_quoted (hkey : Text.MadeOf isBareKeyChar key) {text : String}
    (htext : Text.MadeOf isBasicChar text) : (quoted key text).Plain := by
  refine ⟨hkey, ⟨'"', _, rfl, by decide, by decide, by decide⟩, fun rest => ?_⟩
  have hread := readScalar_string ('\n' :: rest) htext.ne_nil htext.pass
  rw [String.ofList_toList] at hread
  simpa [quoted] using hread

/-- A line with a truth value is plain. -/
theorem plain_truth (hkey : Text.MadeOf isBareKeyChar key) (value : Bool) :
    (truth key value).Plain := by
  refine ⟨hkey, ?_, fun rest => readScalar_bool ('\n' :: rest) value⟩
  cases value
  · exact ⟨'f', _, rfl, by decide, by decide, by decide⟩
  · exact ⟨'t', _, rfl, by decide, by decide, by decide⟩

end Toml.Line

namespace Settings

open Toml.Line

/-- The lines of settings. -/
def lines (settings : Settings) : List Toml.Line :=
  [number "samples_per_attempt" settings.samplesPerAttempt,
    number "max_boot_restarts" settings.maxBootRestarts,
    number "max_wall_polls" settings.maxWallPolls,
    quoted "min_offset_advance" settings.minOffsetAdvance.format,
    number "max_drift_ppm" settings.maxDriftPpm,
    quoted "continuous_mode" settings.continuousMode.key,
    truth "eager_init" settings.eagerInit] ++
  settings.recalibrateInterval.toList.map fun interval =>
    quoted "recalibrate_interval" interval.format

/-- The document of settings is made of their lines. -/
theorem toList_toToml (settings : Settings) :
    settings.toToml.toList = settings.lines.flatMap Toml.Line.chars := by
  obtain ⟨samples, restarts, polls, advance, drift, mode, eager, interval?⟩ := settings
  cases interval? <;>
    simp [toToml, lines, tomlLine, tomlText, Toml.Line.chars, number, quoted, truth, Text.decimal,
      Text.intChars]

/-- Each line of settings is plain. -/
theorem plain_of_mem_lines {settings : Settings} {line : Toml.Line}
    (hmem : line ∈ settings.lines) : line.Plain := by
  have hmode : Text.MadeOf Toml.isBasicChar settings.continuousMode.key := by
    cases settings.continuousMode <;> decide +kernel
  simp only [lines, List.mem_append, List.mem_cons, List.not_mem_nil, or_false, List.mem_map]
    at hmem
  rcases hmem with (rfl | rfl | rfl | rfl | rfl | rfl | rfl) | ⟨interval, -, rfl⟩
  · exact plain_number (by decide +kernel) _
  · exact plain_number (by decide +kernel) _
  · exact plain_number (by decide +kernel) _
  · exact plain_quoted (by decide +kernel) (Duration.format_basic _)
  · exact plain_number (by decide +kernel) _
  · exact plain_quoted (by decide +kernel) hmode
  · exact plain_truth (by decide +kernel) _
  · exact plain_quoted (by decide +kernel) interval.format_basic

/-- No key stands in two lines of settings. -/
theorem pairwise_lines (settings : Settings) :
    (settings.lines.map Toml.Line.entry).Pairwise fun a b => a.1 ≠ b.1 := by
  obtain ⟨samples, restarts, polls, advance, drift, mode, eager, interval?⟩ := settings
  cases interval? <;> simp [lines, Toml.Line.entry, number, quoted, truth]

/-- A number is decoded to the half word that was written. -/
theorem uint32?_toNat (n : UInt32) : Toml.uint32? (.integer n.toNat) = some n := by
  have hlt := n.toNat_lt
  rw [Toml.uint32?, if_pos (by omega)]
  simp

/-- The text of a duration is decoded to it. -/
theorem duration?_format (d : Duration) : Toml.duration? (.string d.format) = some d :=
  d.parse?_format

/-- The name of a mode is decoded to it. -/
theorem mode?_key (mode : ContinuousMode) : Toml.mode? (.string mode.key) = some mode := by
  cases mode <;> decide +kernel

/-- The entries of settings are decoded to the values that were written. -/
theorem ofEntries?_lines (settings : Settings) :
    ofEntries? (settings.lines.map Toml.Line.entry) = some settings := by
  obtain ⟨samples, restarts, polls, advance, drift, mode, eager, interval?⟩ := settings
  cases interval? <;>
    simp [ofEntries?, lines, Toml.Line.entry, number, quoted, truth, TomlEntries.valueOr?,
      List.lookup_cons, uint32?_toNat, duration?_format, mode?_key, Toml.bool?]

/-- Settings that are written and read again are the same, if their own check accepts them, and are
refused for the same value otherwise. -/
theorem ofToml_toToml (settings : Settings) :
    ofToml settings.toToml =
      match settings.validate with
      | .ok () => .ok settings
      | .error fault => .error (.range fault) := by
  have hparse := Toml.parse?_lines settings.toList_toToml (fun line => plain_of_mem_lines)
    settings.pairwise_lines
  rw [ofToml, hparse, Option.bind_some, ofEntries?_lines]
  rfl

end Settings

end SoftClock
