import SoftClock.ClockError
import SoftClock.Timebase.Scale
import SoftClock.Timebase.WideProduct

/-!
# Conversion between Ticks and Nanoseconds

A converter holds a usable scale together with its fixed-point multiplier, or stands for a timebase
that is not available. Ticks become nanoseconds by one wide product and a shift; the way back is an
exact division, since it is off the hot path. Every conversion saturates, and without a timebase
every conversion gives zero.
-/

namespace SoftClock

/-- A usable scale with its multiplier and headroom. -/
structure Ratio where
  scale : Scale
  multiplier : UInt64
  extraBits : Nat
  /-- The multiplier and headroom are those of the scale. -/
  isDerived : scale.fixedPoint? = some (multiplier, extraBits)
  deriving DecidableEq

namespace Ratio

/-- The number of fractional bits of the multiplier. -/
def shift (r : Ratio) : UInt64 := .ofNat (32 + r.extraBits)

/-- Nanoseconds in a number of ticks, saturating. -/
def ticksToNanos (r : Ratio) (ticks : UInt64) : UInt64 :=
  if r.scale.isIdentity then ticks
  else
    let product := WideWord.product ticks r.multiplier
    if product.high >>> r.shift ≠ 0 then 0xffffffffffffffff
    else (product.high <<< (64 - r.shift)) ||| (product.low >>> r.shift)

/-- Length of one tick in nanoseconds, rounded up. -/
def resolution (r : Ratio) : UInt64 :=
  if r.scale.isIdentity then 1
  else
    (r.multiplier >>> r.shift) +
      (if r.multiplier &&& ((1 <<< r.shift) - 1) ≠ 0 then 1 else 0)

/-- Whole ticks in a number of nanoseconds, saturating. -/
def nanosToTicks (r : Ratio) (nanos : UInt64) : UInt64 :=
  if r.scale.isIdentity then nanos
  else .ofNatClamp (nanos.toNat * r.scale.denom.toNat / r.scale.numer.toNat)

/-- Whole ticks in a signed number of nanoseconds, rounded toward zero. The magnitude saturates at
64 bits and the result at the largest signed value on either side. -/
def signedNanosToTicks (r : Ratio) (nanos : Int) : Int64 :=
  let ticks := Int64.ofIntClamp (r.nanosToTicks (.ofNatClamp nanos.natAbs)).toNat
  if nanos < 0 then -ticks else ticks

end Ratio

/-- A converter between ticks and nanoseconds. -/
inductive Converter where
  /-- The scale is not known, so every conversion gives zero. -/
  | degraded
  /-- The scale is known. -/
  | calibrated (ratio : Ratio)
  deriving DecidableEq

/-- The ratio of a scale. A zero term makes a scale unusable. -/
def Ratio.ofScale (scale : Scale) : Except ClockError Ratio :=
  match h : scale.fixedPoint? with
  | some (multiplier, extraBits) => .ok ⟨scale, multiplier, extraBits, h⟩
  | none =>
    if scale.isUsable then
      .error (.calibration ("timebase " ++ scale.label ++ " exceeds the fixed-point range"))
    else
      .error (.calibration ("timebase " ++ scale.label ++ " has a zero term"))

namespace Converter

/-- The converter of a scale. -/
def ofScale (scale : Scale) : Except ClockError Converter :=
  (Ratio.ofScale scale).map .calibrated

/-- The scale that a converter was made from. -/
def scale? : Converter → Option Scale
  | .degraded => none
  | .calibrated ratio => some ratio.scale

/-- Whether conversions give real values. -/
def isValid : Converter → Bool
  | .degraded => false
  | .calibrated _ => true

/-- The fixed-point multiplier; zero without a timebase. -/
def multiplier : Converter → UInt64
  | .degraded => 0
  | .calibrated ratio => ratio.multiplier

/-- The headroom of the multiplier; zero without a timebase. -/
def extraBits : Converter → Nat
  | .degraded => 0
  | .calibrated ratio => ratio.extraBits

/-- Nanoseconds in a number of ticks. -/
def ticksToNanos : Converter → UInt64 → UInt64
  | .degraded, _ => 0
  | .calibrated ratio, ticks => ratio.ticksToNanos ticks

/-- Length of one tick in nanoseconds, rounded up. -/
def resolution : Converter → UInt64
  | .degraded => 0
  | .calibrated ratio => ratio.resolution

/-- Whole ticks in a number of nanoseconds. -/
def nanosToTicks : Converter → UInt64 → UInt64
  | .degraded, _ => 0
  | .calibrated ratio, nanos => ratio.nanosToTicks nanos

/-- Whole ticks in a signed number of nanoseconds. -/
def signedNanosToTicks : Converter → Int → Int64
  | .degraded, _ => 0
  | .calibrated ratio, nanos => ratio.signedNanosToTicks nanos

end Converter

/-- Whole seconds of a nanosecond count, and the rest. The rest is below `2 ^ 30`, so 32-bit
arithmetic that wraps around recovers it. -/
def splitNanos (nanos : UInt64) : UInt64 × UInt32 :=
  let secs := nanos / 1000000000
  (secs, nanos.toUInt32 - secs.toUInt32 * 1000000000)

/-- Whole seconds and the nanosecond rest of a number of ticks. -/
def Converter.ticksToSplit (converter : Converter) (ticks : UInt64) : UInt64 × UInt32 :=
  splitNanos (converter.ticksToNanos ticks)

end SoftClock
