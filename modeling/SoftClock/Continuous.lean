import SoftClock.Offset.Estimator

/-!
# The Continuous Tick Count

Ticks plus the published sleep offset. Each read first estimates the offset anew when there is no
valid estimate, or when the last one is stale; a failed estimate is ignored and tried again by a
later read. In fallback mode the count is the counter alone.
-/

namespace SoftClock

variable {σ : Type}

/-- A continuous tick count. -/
structure Continuous where
  estimator : Estimator
  /-- The mode in use. -/
  mode : ContinuousMode
  /-- The age from which an estimate is stale, if it ever is. -/
  interval : Option Duration
  deriving DecidableEq, Repr

namespace Continuous

/-- A count without an estimate. -/
def new (settings : Settings) : Continuous :=
  ⟨.new, settings.continuousMode.resolve, settings.recalibrateInterval⟩

/-- Whether a read has to estimate first. An unreadable wall clock does not make an estimate
stale. -/
def needsRefresh (m : Machine σ) (c : Continuous) (s : σ) : Bool × σ :=
  if c.estimator.valid then
    match c.interval with
    | none => (false, s)
    | some interval =>
      match m.wall s with
      | (.ok now, s) => (c.estimator.isStale now interval, s)
      | (.error _, s) => (false, s)
  else
    (true, s)

/-- Estimate the offset now. -/
def refresh (m : Machine σ) (converter : Converter) (settings : Settings) (c : Continuous) (s : σ) :
    Except ClockError RefreshOutcome × Continuous × σ :=
  match c.estimator.refresh m converter settings s with
  | (outcome, estimator, s) => (outcome, { c with estimator := estimator }, s)

/-- Estimate the offset if a read has to. -/
def prepare (m : Machine σ) (converter : Converter) (settings : Settings) (c : Continuous) (s : σ) :
    Continuous × σ :=
  match c.needsRefresh m s with
  | (true, s) => (c.refresh m converter settings s).2
  | (false, s) => (c, s)

/-- The continuous count over one way to read the counter. -/
def readWith (read : σ → UInt64 × σ) (m : Machine σ) (converter : Converter) (settings : Settings)
    (c : Continuous) (s : σ) : UInt64 × Continuous × σ :=
  match c.mode with
  | .rawFallback =>
    match read s with
    | (ticks, s) => (ticks, c, s)
  | .auto | .sleepAware =>
    match c.prepare m converter settings s with
    | (c, s) =>
      match read s with
      | (ticks, s) => (ticks + c.estimator.published, c, s)

/-- The continuous count by the precise counter. -/
def ticks (m : Machine σ) (converter : Converter) (settings : Settings) (c : Continuous) (s : σ) :
    UInt64 × Continuous × σ :=
  c.readWith m.ticks m converter settings s

/-- The continuous count by the coarse counter. -/
def approxTicks (m : Machine σ) (converter : Converter) (settings : Settings) (c : Continuous)
    (s : σ) : UInt64 × Continuous × σ :=
  c.readWith m.approxTicks m converter settings s

/-- Make the next read estimate anew. -/
def invalidate (c : Continuous) : Continuous := { c with estimator := c.estimator.invalidate }

end Continuous

end SoftClock
