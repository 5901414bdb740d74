import SoftClock.Text.Quoted
import SoftClock.Text.Integer

/-!
# Time Values

The two shapes in which times are exchanged, seconds with nanoseconds and seconds with microseconds,
their totals in nanoseconds, and the conversions between them.

* `Timespec.nanos` counts a negative part as zero and saturates above 64 bits;
* `Timeval.nanos` is zero whenever the exact total does not fit 64 bits;
* `Timeval.ofTimespec` drops what is finer than a microsecond.
-/

namespace SoftClock

/-- Nanoseconds in a second. -/
def nanosPerSecond : Nat := 1000000000

/-- Nanoseconds in a microsecond. -/
def nanosPerMicro : Nat := 1000

/-- Microseconds in a second. -/
def microsPerSecond : Nat := 1000000

/-- Seconds and nanoseconds. -/
structure Timespec where
  sec : Int64
  nsec : Int64
  deriving DecidableEq, Repr

/-- Seconds and microseconds. -/
structure Timeval where
  sec : Int64
  usec : Int64
  deriving DecidableEq, Repr

namespace Timespec

/-- Earlier seconds first, then fewer nanoseconds. -/
instance : LE Timespec where
  le a b := a.sec < b.sec ∨ (a.sec = b.sec ∧ a.nsec ≤ b.nsec)

instance (a b : Timespec) : Decidable (a ≤ b) :=
  inferInstanceAs (Decidable (a.sec < b.sec ∨ (a.sec = b.sec ∧ a.nsec ≤ b.nsec)))

/-- The whole seconds and the rest of a nanosecond count. -/
def ofNanos (nanos : UInt64) : Timespec where
  sec := (nanos / 1000000000).toInt64
  nsec := (nanos % 1000000000).toInt64

/-- Total nanoseconds; a negative part counts as zero and the sum saturates. -/
def nanos (time : Timespec) : UInt64 :=
  .ofNatClamp (time.sec.toInt.toNat * nanosPerSecond + time.nsec.toInt.toNat)

/-- Whether the nanoseconds are a proper fraction of a second. -/
def IsNormalized (time : Timespec) : Prop :=
  0 ≤ time.nsec.toInt ∧ time.nsec.toInt < nanosPerSecond

instance (time : Timespec) : Decidable time.IsNormalized :=
  inferInstanceAs (Decidable (_ ∧ _))

/-- The times in increasing order. -/
def sort (times : List Timespec) : List Timespec :=
  times.mergeSort fun a b => decide (a ≤ b)

end Timespec

namespace Timeval

/-- Earlier seconds first, then fewer microseconds. -/
instance : LE Timeval where
  le a b := a.sec < b.sec ∨ (a.sec = b.sec ∧ a.usec ≤ b.usec)

instance (a b : Timeval) : Decidable (a ≤ b) :=
  inferInstanceAs (Decidable (a.sec < b.sec ∨ (a.sec = b.sec ∧ a.usec ≤ b.usec)))

/-- Exact signed total in nanoseconds. -/
def exactNanos (time : Timeval) : Int :=
  time.sec.toInt * nanosPerSecond + time.usec.toInt * nanosPerMicro

/-- Total nanoseconds where they fit 64 bits without a sign, else zero. -/
def nanos (time : Timeval) : UInt64 :=
  if 0 ≤ time.exactNanos ∧ time.exactNanos ≤ 0xffffffffffffffff then .ofNat time.exactNanos.toNat
  else 0

/-- Total microseconds, saturating at the signed 64-bit range. -/
def micros (time : Timeval) : Int64 :=
  .ofIntClamp ((Int64.ofIntClamp (time.sec.toInt * microsPerSecond)).toInt + time.usec.toInt)

/-- The time at or just below an exact nanosecond total. Seconds beyond the signed 64-bit range
read as the largest second count. -/
def ofExactNanos (nanos : Int) : Timeval where
  sec :=
    let sec := nanos / nanosPerMicro / microsPerSecond
    if -0x8000000000000000 ≤ sec ∧ sec ≤ 0x7fffffffffffffff then .ofInt sec else Int64.maxValue
  usec := .ofInt (nanos / nanosPerMicro % microsPerSecond)

/-- The same time with nanoseconds. -/
def toTimespec (time : Timeval) : Timespec where
  sec := time.sec
  nsec := time.usec * 1000

/-- The same time truncated to microseconds. -/
def ofTimespec (time : Timespec) : Timeval where
  sec := time.sec
  usec := time.nsec / 1000

/-- The times in increasing order. -/
def sort (times : List Timeval) : List Timeval :=
  times.mergeSort fun a b => decide (a ≤ b)

end Timeval

/-- Why a text is not a time. -/
inductive TimespecFault where
  /-- The part before the first point is no 64-bit integer. -/
  | seconds (text : List Char) (fault : Text.IntegerFault)
  /-- The part after the first point is not at most nine digits. -/
  | fraction (text : List Char)
  deriving DecidableEq, Repr

/-- The wording of a refusal. -/
def TimespecFault.message : TimespecFault → String
  | .seconds text fault =>
    "invalid seconds " ++ String.ofList (Text.quoted text) ++ ": " ++ fault.message
  | .fraction text => "invalid fraction " ++ String.ofList (Text.quoted text)

namespace Timespec

/-- Seconds, a point, and nine fractional digits. -/
def format (time : Timespec) : String :=
  String.ofList (Text.intChars time.sec.toInt ++ '.' :: Text.zeroFilled 9 time.nsec.toInt)

/-- The nanoseconds that at most nine fractional digits stand for: missing digits are zeros. -/
def fractionNanos (digits : List Char) : Nat := Nat.ofDigitChars 10 (digits.rightpad 9 '0') 0

/-- Read seconds with an optional fraction. The seconds keep their sign; the fraction always counts
forward from them. -/
def parse (text : String) : Except TimespecFault Timespec :=
  let seconds := text.toList.takeWhile (· ≠ '.')
  let fraction := (text.toList.dropWhile (· ≠ '.')).drop 1
  match Text.readInteger Int64.minValue.toInt Int64.maxValue.toInt seconds with
  | .error fault => .error (.seconds seconds fault)
  | .ok sec =>
    if fraction.length ≤ 9 ∧ fraction.all Char.isDigit then
      .ok ⟨.ofInt sec, .ofNat (fractionNanos fraction)⟩
    else
      .error (.fraction fraction)

end Timespec

end SoftClock
