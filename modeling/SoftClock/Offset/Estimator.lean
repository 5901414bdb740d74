import SoftClock.Offset.Hysteresis
import SoftClock.Offset.Sample
import SoftClock.Timebase.Converter

/-!
# The Sleep Offset

The tick counter stops while a machine sleeps and the wall clock does not. The wall time since boot
less the ticks since boot is therefore the time asleep, in ticks, and the continuous clock adds it
back.

* The raw estimate is `ticks (wall - boot) - midpoint` of one sample.
* Boot times may be stamped after the counter started, which makes raw estimates negative. The first
  negative one is kept for good as the baseline that later estimates are measured from.
* What is measured is committed only if it clears the margin of `requiredAdvance`.
* A failed attempt changes nothing but the counters.
-/

namespace SoftClock

variable {σ : Type}

/-- What is known about the time asleep. -/
structure Estimate where
  /-- The offset that was committed last. -/
  committed : UInt64 := 0
  /-- The latest raw estimate. -/
  raw : Option Int64 := none
  /-- The first negative raw estimate. -/
  baseline : Option Int64 := none
  /-- Wall time in nanoseconds from which drift counts: that of the last commit, or of the first
  estimate while nothing has been committed. -/
  driftSince : Option Int := none
  deriving DecidableEq, Repr

/-- How a completed attempt ended. -/
inductive RefreshOutcome where
  /-- The offset rose to this value. -/
  | committed (ticks : UInt64)
  /-- The candidate did not clear the margin. -/
  | unchanged
  deriving DecidableEq, Repr

/-- The difference of two signed words, saturating. -/
def saturatingSub (a b : Int64) : Int64 := .ofIntClamp (a.toInt - b.toInt)

/-- The raw estimate of a sample: ticks of wall time since boot, less ticks counted. -/
def BootSample.raw (sample : BootSample) (ratio : Ratio) : Int64 :=
  saturatingSub
    (ratio.signedNanosToTicks (sample.pair.wall.exactNanos - sample.boot.exactNanos))
    (.ofIntClamp sample.pair.midpoint.toNat)

namespace Estimate

/-- The estimate with a new raw value, which becomes the baseline if it is the first negative
one. -/
def observe (e : Estimate) (raw : Int64) : Estimate where
  committed := e.committed
  raw := some raw
  baseline := if raw < 0 then e.baseline <|> some raw else e.baseline
  driftSince := e.driftSince

/-- The offset that a raw value stands for, measured from the baseline. -/
def candidate (e : Estimate) (raw : Int64) : Int64 := saturatingSub raw (e.baseline.getD 0)

/-- Nanoseconds of wall time since drift started to count; zero if the wall clock went back or the
span does not fit 64 bits. -/
def driftSpan (e : Estimate) (wall : Int) : UInt64 :=
  match e.driftSince with
  | none => 0
  | some since =>
    if 0 ≤ wall - since ∧ wall - since ≤ 0xffffffffffffffff then .ofNat (wall - since).toNat else 0

/-- The margin that a candidate seen at a wall time has to exceed. -/
def margin (e : Estimate) (ratio : Ratio) (settings : Settings) (wall : Int) : UInt64 :=
  requiredAdvance (ratio.nanosToTicks settings.minOffsetAdvance.clampedNanos)
    (ratio.nanosToTicks (e.driftSpan wall)) settings.maxDriftPpm

/-- Take in a sample: note its raw value, and commit what it stands for if that clears the
margin. -/
def absorb (e : Estimate) (ratio : Ratio) (settings : Settings) (sample : BootSample) :
    RefreshOutcome × Estimate :=
  let wall := sample.pair.wall.exactNanos
  let observed := e.observe (sample.raw ratio)
  let next := applyHysteresis e.committed (observed.candidate (sample.raw ratio))
    (e.margin ratio settings wall)
  if next = e.committed then
    (.unchanged, { observed with driftSince := e.driftSince <|> some wall })
  else
    (.committed next, { observed with committed := next, driftSince := some wall })

end Estimate

/-- The estimator behind a continuous clock. -/
structure Estimator where
  /-- What is known about the time asleep. -/
  estimate : Estimate := {}
  /-- The offset that readers add. It is raised to every committed offset and never lowered. -/
  published : UInt64 := 0
  /-- Whether an estimate has completed since the last invalidation. -/
  valid : Bool := false
  /-- Wall time in microseconds of the last completed estimate. -/
  validatedAt : Int64 := 0
  /-- How the attempts ended. -/
  counters : Counters := {}
  deriving DecidableEq, Repr

namespace Estimator

/-- An estimator without an estimate. -/
def new : Estimator := {}

/-- Whether the last completed estimate is older than `interval` at wall time `now`. A wall clock
that was set back reads as fresh, as long as its whole seconds fit the signed words as
microseconds. -/
def isStale (e : Estimator) (now : Timeval) (interval : Duration) : Bool :=
  (interval.micros : Int) < (saturatingSub now.micros e.validatedAt).toInt

/-- Make the next continuous read estimate anew. -/
def invalidate (e : Estimator) : Estimator := { e with valid := false }

/-- The estimator after a sample was absorbed with an outcome. -/
def complete (e : Estimator) (outcome : RefreshOutcome) (estimate : Estimate) (counters : Counters)
    (wall : Timeval) : Estimator where
  estimate := estimate
  published :=
    match outcome with
    | .committed ticks => max e.published ticks
    | .unchanged => e.published
  valid := true
  validatedAt := wall.micros
  counters :=
    match outcome with
    | .committed _ => counters.recordCommit
    | .unchanged => counters.recordRejection

/-- Take a fresh sample and absorb it. -/
def refresh (m : Machine σ) (converter : Converter) (settings : Settings) (e : Estimator) (s : σ) :
    Except ClockError RefreshOutcome × Estimator × σ :=
  match converter with
  | .degraded =>
    (.error (.calibration "no timebase for offset estimate"),
      { e with counters := e.counters.recordAttempt.recordReadFailure }, s)
  | .calibrated ratio =>
    match takeSample m settings e.counters.recordAttempt s with
    | (.error error, counters, s) =>
      (.error error, { e with counters := counters.recordFailure error }, s)
    | (.ok sample, counters, s) =>
      let (outcome, estimate) := e.estimate.absorb ratio settings sample
      (.ok outcome, e.complete outcome estimate counters sample.pair.wall, s)

end Estimator

/-- The state of an estimator at one moment, as reports show it. -/
structure OffsetSnapshot where
  /-- The committed offset. -/
  committed : UInt64
  /-- The latest raw estimate. -/
  raw : Option Int64
  /-- The first negative raw estimate. -/
  baseline : Option Int64
  /-- Whether an estimate has completed since the last invalidation. -/
  valid : Bool
  /-- How the attempts ended. -/
  counters : Counters
  deriving DecidableEq, Repr

/-- The state of an estimator now. -/
def Estimator.snapshot (e : Estimator) : OffsetSnapshot :=
  ⟨e.estimate.committed, e.estimate.raw, e.estimate.baseline, e.valid, e.counters⟩

end SoftClock
