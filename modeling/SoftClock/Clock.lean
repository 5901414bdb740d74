import SoftClock.Continuous
import SoftClock.Time.ClockId

/-!
# The Clock Set

A clock answers queries for every `ClockId` from the time sources of one machine.

| Clock                                   | Source              | Granularity   |
|-----------------------------------------|---------------------|---------------|
| `realtime`                              | wall clock          | 1 microsecond |
| `monotonic`                             | continuous ticks    | 1 microsecond |
| `monotonicRaw`, `uptimeRaw`             | tick counter        | 1 tick        |
| `monotonicRawApprox`, `uptimeRawApprox` | coarse tick counter | 1 tick        |
| `processCputime`, `threadCputime`       | processor time      | 1 microsecond |

The tick scale is read on first use. A usable scale is kept for good; a failure is not kept, and
until a scale is known every clock made from ticks reads zero.
-/

namespace SoftClock

variable {σ : Type}

/-- A clock over a machine. -/
structure Clock where
  settings : Settings
  /-- The ratio of the tick scale, once it is known. -/
  ratio? : Option Ratio
  continuous : Continuous
  deriving DecidableEq

/-- A nanosecond count without what is finer than a microsecond. -/
def floorToMicros (nanos : UInt64) : UInt64 := nanos - nanos % 1000

namespace Clock

/-- The converter, reading the scale if it is not known yet. -/
def converter (m : Machine σ) (c : Clock) (s : σ) : Converter × Clock × σ :=
  match c.ratio? with
  | some ratio => (.calibrated ratio, c, s)
  | none =>
    match m.scale s with
    | (.error _, s) => (.degraded, c, s)
    | (.ok scale, s) =>
      match Ratio.ofScale scale with
      | .ok ratio => (.calibrated ratio, { c with ratio? := some ratio }, s)
      | .error _ => (.degraded, c, s)

/-- Estimate the sleep offset now. -/
def refreshOffset (m : Machine σ) (c : Clock) (s : σ) :
    Except ClockError RefreshOutcome × Clock × σ :=
  match c.converter m s with
  | (converter, c, s) =>
    match c.continuous.refresh m converter c.settings s with
    | (outcome, continuous, s) => (outcome, { c with continuous := continuous }, s)

/-- Build a clock. With `eagerInit` the sleep offset is estimated at once; a failure is ignored. -/
def withSettings (m : Machine σ) (settings : Settings) (s : σ) : Clock × σ :=
  let c : Clock := ⟨settings, none, .new settings⟩
  if settings.eagerInit then (c.refreshOffset m s).2 else (c, s)

/-- Make the next continuous read estimate the sleep offset anew. -/
def invalidateOffset (c : Clock) : Clock := { c with continuous := c.continuous.invalidate }

/-- The state of the estimator. -/
def snapshot (c : Clock) : OffsetSnapshot := c.continuous.estimator.snapshot

/-- The tick scale, if it can be had. -/
def timebase (m : Machine σ) (c : Clock) (s : σ) : Option Scale × Clock × σ :=
  match c.converter m s with
  | (converter, c, s) => (converter.scale?, c, s)

/-- The continuous tick count. -/
def continuousTime (m : Machine σ) (c : Clock) (s : σ) : UInt64 × Clock × σ :=
  match c.converter m s with
  | (converter, c, s) =>
    match c.continuous.ticks m converter c.settings s with
    | (ticks, continuous, s) => (ticks, { c with continuous := continuous }, s)

/-- The continuous tick count by the coarse counter. -/
def continuousApproxTime (m : Machine σ) (c : Clock) (s : σ) : UInt64 × Clock × σ :=
  match c.converter m s with
  | (converter, c, s) =>
    match c.continuous.approxTicks m converter c.settings s with
    | (ticks, continuous, s) => (ticks, { c with continuous := continuous }, s)

/-- The time of `monotonic`: the continuous count in nanoseconds, floored to microseconds. -/
def monotonicNanos (m : Machine σ) (c : Clock) (s : σ) : UInt64 × Clock × σ :=
  match c.converter m s with
  | (converter, c, s) =>
    match c.continuous.ticks m converter c.settings s with
    | (ticks, continuous, s) =>
      (floorToMicros (converter.ticksToNanos ticks), { c with continuous := continuous }, s)

/-- The time of a clock that is a plain conversion of one counter read. -/
def counterNanos (read : σ → UInt64 × σ) (m : Machine σ) (c : Clock) (s : σ) : UInt64 × Clock × σ :=
  match c.converter m s with
  | (converter, c, s) =>
    match read s with
    | (ticks, s) => (converter.ticksToNanos ticks, c, s)

/-- The time of a clock in nanoseconds. -/
def queryNanos (m : Machine σ) (id : ClockId) (c : Clock) (s : σ) :
    Except ClockError UInt64 × Clock × σ :=
  match id with
  | .realtime =>
    match m.wall s with
    | (time, s) => (time.map Timeval.nanos, c, s)
  | .monotonic =>
    match c.monotonicNanos m s with
    | (nanos, c, s) => (.ok nanos, c, s)
  | .monotonicRaw | .uptimeRaw =>
    match c.counterNanos m.ticks m s with
    | (nanos, c, s) => (.ok nanos, c, s)
  | .monotonicRawApprox | .uptimeRawApprox =>
    match c.counterNanos m.approxTicks m s with
    | (nanos, c, s) => (.ok nanos, c, s)
  | .processCputime =>
    match m.processCpu s with
    | (time, s) => (time.map Timeval.nanos, c, s)
  | .threadCputime =>
    match m.threadCpu s with
    | (time, s) => (time.map Timeval.nanos, c, s)

/-- Whole seconds and the rest of a nanosecond count. -/
def splitTimespec (nanos : UInt64) : Timespec where
  sec := .ofIntClamp (splitNanos nanos).1.toNat
  nsec := .ofNat (splitNanos nanos).2.toNat

/-- The time of a clock in seconds and nanoseconds. The wall clock is passed through, so that times
before the epoch stay intact. -/
def querySplit (m : Machine σ) (id : ClockId) (c : Clock) (s : σ) :
    Except ClockError Timespec × Clock × σ :=
  if id = .realtime then
    match m.wall s with
    | (time, s) => (time.map Timeval.toTimespec, c, s)
  else
    match c.queryNanos m id s with
    | (nanos, c, s) => (nanos.map splitTimespec, c, s)

/-- The resolution of a clock. Clocks made from ticks report one tick rounded up, or zero without a
timebase; `monotonic` never reports less than a microsecond otherwise. -/
def resolution (m : Machine σ) (id : ClockId) (c : Clock) (s : σ) :
    Except ClockError Timespec × Clock × σ :=
  if id.isTickDerived then
    match c.converter m s with
    | (converter, c, s) =>
      if id = .monotonic ∧ 0 < converter.resolution then
        (.ok (.ofNanos (max converter.resolution 1000)), c, s)
      else
        (.ok (.ofNanos converter.resolution), c, s)
  else
    (.ok ⟨0, 1000⟩, c, s)

/-- Set a clock. Only the wall clock can be set, to a normalized time, which is truncated to
microseconds. -/
def setTime (m : Machine σ) (id : ClockId) (time : Timespec) (s : σ) : Except ClockError Unit × σ :=
  if id = .realtime then
    if time.IsNormalized then
      m.setWall (.ofTimespec time) s
    else
      (.error (.invalidArgument
        ("nanoseconds " ++ Text.decimal time.nsec.toInt ++ " out of range")), s)
  else
    (.error (.invalidArgument (id.name ++ " is not settable")), s)

end Clock

end SoftClock
