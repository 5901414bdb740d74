import SoftClock.ClockError
import SoftClock.Duration.Basic

/-!
# Settings

The values that tune a clock, their defaults, and the ranges they have to stay in. Settings are
plain values: a clock can be built from any of them, and `Settings.validate` says which of them are
accepted from outside.
-/

namespace SoftClock

/-- How the continuous clock is made. -/
inductive ContinuousMode where
  /-- The best mode that the machine supports. -/
  | auto
  /-- Ticks plus the estimated time asleep. -/
  | sleepAware
  /-- Ticks alone, which stop during sleep. -/
  | rawFallback
  deriving DecidableEq, Repr

namespace ContinuousMode

/-- Every mode. -/
def all : List ContinuousMode := [.auto, .sleepAware, .rawFallback]

/-- The name in stored data. -/
def key : ContinuousMode → String
  | .auto => "auto"
  | .sleepAware => "sleep_aware"
  | .rawFallback => "raw_fallback"

/-- The name in reports. -/
def label : ContinuousMode → String
  | .auto => "Auto"
  | .sleepAware => "SleepAware"
  | .rawFallback => "RawFallback"

/-- The mode with a name in stored data. -/
def ofKey? (key : String) : Option ContinuousMode := all.find? fun mode => mode.key == key

/-- The mode that is used. `auto` counts time asleep, as it does on every architecture but PowerPC;
the fallback that it stands for there is left out. -/
def resolve : ContinuousMode → ContinuousMode
  | .auto | .sleepAware => .sleepAware
  | .rawFallback => .rawFallback

end ContinuousMode

/-- The values that tune a clock. -/
structure Settings where
  /-- Pairs of wall clock and counter taken for one estimate; the tightest one is used. -/
  samplesPerAttempt : UInt32 := 5
  /-- How often an estimate starts over when the boot time moves. -/
  maxBootRestarts : UInt32 := 3
  /-- Wall clock reads allowed while waiting for the wall clock to tick. -/
  maxWallPolls : UInt32 := 1000000
  /-- The smallest advance that replaces the committed offset. -/
  minOffsetAdvance : Duration := .millisecond
  /-- Assumed worst slew of the wall clock, in parts per million. -/
  maxDriftPpm : UInt32 := 500
  /-- How the continuous clock is made. -/
  continuousMode : ContinuousMode := .auto
  /-- Whether the offset is estimated as soon as a clock is built. -/
  eagerInit : Bool := true
  /-- The age from which an estimate is stale, if it ever is. -/
  recalibrateInterval : Option Duration := none
  deriving DecidableEq, Repr

/-- Which value of the settings is out of range. -/
inductive SettingsFault where
  | noSamples
  | noPolls
  | drift (ppm : UInt32)
  | emptyInterval
  deriving DecidableEq, Repr

/-- The wording of a refused value. -/
def SettingsFault.message : SettingsFault → String
  | .noSamples => "samples_per_attempt must be at least 1"
  | .noPolls => "max_wall_polls must be at least 1"
  | .drift ppm => "max_drift_ppm " ++ Text.decimal ppm.toNat ++ " exceeds one million"
  | .emptyInterval => "recalibrate_interval must be non-zero"

/-- Check the ranges; the first value out of range is named. -/
def Settings.validate (settings : Settings) : Except SettingsFault Unit :=
  if settings.samplesPerAttempt = 0 then .error .noSamples
  else if settings.maxWallPolls = 0 then .error .noPolls
  else if 1000000 < settings.maxDriftPpm then .error (.drift settings.maxDriftPpm)
  else if settings.recalibrateInterval.any fun interval => interval.nanos = 0 then
    .error .emptyInterval
  else .ok ()

end SoftClock
