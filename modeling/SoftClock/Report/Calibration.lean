import SoftClock.Clock
import SoftClock.Json.Records

/-!
# The Calibration Report

The timebase and the sleep offset after an attempt to estimate it.
-/

namespace SoftClock

variable {σ : Type}

/-- How an attempt ended, in words. -/
def outcomeText : Except ClockError RefreshOutcome → String
  | .ok (.committed ticks) => "committed " ++ Text.decimal ticks.toNat ++ " ticks"
  | .ok .unchanged => "unchanged"
  | .error e => "failed: " ++ e.message

/-- A word in hexadecimal with all its digits. -/
def hexWord (word : UInt64) : String :=
  "0x" ++ String.ofList ((Nat.toDigits 16 word.toNat).leftpad 16 '0')

/-- A ratio in percent, rounded to a whole number; a half goes to the even neighbour. -/
def percentText (ratio : Float) : String :=
  let percent := ratio * 100.0
  let whole := percent.floor
  let up := whole.toUInt64 + 1
  let rounded :=
    if percent - whole < 0.5 then whole.toUInt64
    else if 0.5 < percent - whole then up
    else if up % 2 = 0 then up else whole.toUInt64
  Text.decimal rounded.toNat

/-- The timebase and the sleep offset after an attempt to estimate it. -/
structure CalibrationReport where
  /-- The tick scale, if it is known. -/
  scale : Option Scale
  /-- Ticks per second, if the scale is known. -/
  frequency : Option UInt64
  multiplier : UInt64
  extraBits : Nat
  /-- One tick in nanoseconds, rounded up. -/
  resolution : UInt64
  /-- The mode in use. -/
  mode : ContinuousMode
  /-- How the attempt ended. -/
  outcome : String
  /-- The committed offset in nanoseconds. -/
  offsetNanos : UInt64
  /-- The state of the estimator. -/
  offset : OffsetSnapshot
  deriving DecidableEq, Repr

namespace CalibrationReport

/-- The report after an attempt with an outcome. -/
def collect (m : Machine σ) (outcome : Except ClockError RefreshOutcome) (c : Clock) (s : σ) :
    CalibrationReport × Clock × σ :=
  match c.converter m s with
  | (converter, c, s) =>
    ({ scale := converter.scale?
       frequency := converter.scale?.map Scale.frequency
       multiplier := converter.multiplier
       extraBits := converter.extraBits
       resolution := converter.resolution
       mode := c.settings.continuousMode.resolve
       outcome := outcomeText outcome
       offsetNanos := converter.ticksToNanos c.snapshot.committed
       offset := c.snapshot }, c, s)

/-- The line about the tick scale. -/
def scaleLine (r : CalibrationReport) : String :=
  match r.scale with
  | some scale =>
    scale.label ++ " ns per tick (" ++ Text.decimal (r.frequency.getD 0).toNat ++ " Hz)"
  | none => "unavailable"

/-- The counts of attempts, with the part that committed where any completed. -/
def countsLine (counters : Counters) : String :=
  Text.decimal counters.attempts.toNat ++ " attempts, " ++
    Text.decimal counters.commits.toNat ++ " commits, " ++
    Text.decimal counters.rejections.toNat ++ " rejected, " ++
    Text.decimal counters.exhausted.toNat ++ " exhausted, " ++
    Text.decimal counters.bootRestarts.toNat ++ " boot restarts" ++
    (counters.commitRatio?.map fun ratio => " (" ++ percentText ratio ++ "% committed)").getD ""

/-- The report in words, one line for each matter. -/
def text (r : CalibrationReport) : String :=
  "timebase:      " ++ r.scaleLine ++ "\n" ++
    "multiplier:    " ++ hexWord r.multiplier ++ " (32+" ++ Text.decimal r.extraBits ++
      " fractional bits)\n" ++
    "resolution:    " ++ Text.decimal r.resolution.toNat ++ "ns\n" ++
    "mode:          " ++ r.mode.label ++ "\n" ++
    "refresh:       " ++ r.outcome ++ "\n" ++
    "sleep offset:  " ++ Text.decimal r.offset.committed.toNat ++ " ticks (" ++
      (Duration.ofNanos r.offsetNanos).format ++ ")\n" ++
    (r.offset.baseline.map fun baseline =>
      "baseline:      " ++ Text.decimal baseline.toInt ++ " ticks\n").getD "" ++
    "estimates:     " ++ countsLine r.offset.counters

/-- The stored form of a report. -/
def toJson (r : CalibrationReport) : Json :=
  .record [("scale", .ofOption Scale.toJson r.scale),
    ("frequency_hz", .ofOption .ofUInt64 r.frequency), ("multiplier", .ofUInt64 r.multiplier),
    ("extra_bits", .integer r.extraBits), ("resolution_ns", .ofUInt64 r.resolution),
    ("mode", r.mode.toJson), ("outcome", .ofString r.outcome),
    ("offset_ns", .ofUInt64 r.offsetNanos), ("offset", r.offset.toJson)]

end CalibrationReport

end SoftClock
