import SoftClock.Clock
import SoftClock.Json.Value

/-!
# Watching a Clock

A running summary of successive readings: how many there were, how often one was below its
predecessor, and the smallest and largest steps.
-/

namespace SoftClock

variable {σ : Type}

/-- A summary of successive readings in nanoseconds. -/
structure WatchSummary where
  /-- Readings taken. -/
  samples : UInt64 := 0
  /-- Readings below their predecessor. -/
  regressions : UInt64 := 0
  /-- The smallest step that did not go back. -/
  minStep : Option UInt64 := none
  /-- The largest step that did not go back. -/
  maxStep : Option UInt64 := none
  /-- The largest step back. -/
  worstRegression : UInt64 := 0
  /-- The latest reading. -/
  last : Option UInt64 := none
  deriving DecidableEq, Repr

namespace WatchSummary

/-- Take in a step from one reading to the next. -/
def recordStep (w : WatchSummary) (last nanos : UInt64) : WatchSummary :=
  if nanos < last then
    { w with
      regressions := w.regressions + 1
      worstRegression := max w.worstRegression (last - nanos) }
  else
    { w with
      minStep := some ((w.minStep.map (min (nanos - last))).getD (nanos - last))
      maxStep := some ((w.maxStep.map (max (nanos - last))).getD (nanos - last)) }

/-- Take in the next reading. -/
def record (w : WatchSummary) (nanos : UInt64) : WatchSummary :=
  let stepped :=
    match w.last with
    | none => w
    | some last => w.recordStep last nanos
  { stepped with samples := w.samples + 1, last := some nanos }

/-- Take in a number of readings of a clock, up to the first failure. -/
def takeReadings (m : Machine σ) (id : ClockId) :
    Nat → WatchSummary → Clock → σ → Except ClockError WatchSummary × Clock × σ
  | 0, w, c, s => (.ok w, c, s)
  | count + 1, w, c, s =>
    match c.queryNanos m id s with
    | (.ok nanos, c, s) => takeReadings m id count (w.record nanos) c s
    | (.error e, c, s) => (.error e, c, s)

/-- The summary in words. -/
def text (w : WatchSummary) : String :=
  Text.decimal w.samples.toNat ++ " samples, " ++ Text.decimal w.regressions.toNat ++
    " regressions (worst " ++ Text.decimal w.worstRegression.toNat ++ "ns), step " ++
    Text.decimal (w.minStep.getD 0).toNat ++ ".." ++ Text.decimal (w.maxStep.getD 0).toNat ++ "ns"

/-- The stored form of a summary. The latest reading is not part of it. -/
def toJson (w : WatchSummary) : Json :=
  .record [("samples", .ofUInt64 w.samples), ("regressions", .ofUInt64 w.regressions),
    ("min_step_ns", .ofOption .ofUInt64 w.minStep), ("max_step_ns", .ofOption .ofUInt64 w.maxStep),
    ("worst_regression_ns", .ofUInt64 w.worstRegression)]

end WatchSummary

end SoftClock
