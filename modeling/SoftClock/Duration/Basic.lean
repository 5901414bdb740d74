/-!
# Durations

A span of time in whole nanoseconds, long enough for `2 ^ 64 - 1` seconds and a fraction.
-/

namespace SoftClock

/-- A span of time. -/
structure Duration where
  /-- Total nanoseconds. -/
  nanos : Nat
  /-- The whole seconds fit 64 bits. -/
  isLt : nanos < 0x10000000000000000 * 1000000000
  deriving DecidableEq, Repr

namespace Duration

/-- The empty span. -/
def zero : Duration := ⟨0, by decide⟩

/-- The span of a nanosecond total, where it is in range. -/
def ofNanos? (nanos : Nat) : Option Duration :=
  if h : nanos < 0x10000000000000000 * 1000000000 then some ⟨nanos, h⟩ else none

/-- The span of a 64-bit nanosecond total. -/
def ofNanos (nanos : UInt64) : Duration :=
  ⟨nanos.toNat, Nat.lt_of_lt_of_le nanos.toNat_lt (by decide)⟩

/-- One millisecond. -/
def millisecond : Duration := ⟨1000000, by decide⟩

/-- One hour. -/
def hour : Duration := ⟨3600000000000, by decide⟩

/-- Whole seconds. -/
def secs (d : Duration) : Nat := d.nanos / 1000000000

/-- Nanoseconds beyond the whole seconds. -/
def subsecNanos (d : Duration) : Nat := d.nanos % 1000000000

/-- Whole microseconds. -/
def micros (d : Duration) : Nat := d.nanos / 1000

/-- Total nanoseconds, saturating at 64 bits. -/
def clampedNanos (d : Duration) : UInt64 := .ofNatClamp d.nanos

end Duration

end SoftClock
