import SoftClock.Duration.Basic
import SoftClock.Machine.Basic

/-!
# A Simulated Machine

A machine whose tick counter starts at boot and stops during sleep, with a wall clock that keeps
running. Every read of the counter or of the wall clock moves the counter on by a fixed step, so
that polling loops see time pass. Failures, a frozen wall clock and a wrong boot time can be set.

The wall time is `bootWall + ticks + slept + wallShift` in nanoseconds, where `wallShift` sums up
the settings of the wall clock, and is reported in whole microseconds. Setting the wall clock moves
the reported boot time with it.
-/

namespace SoftClock

/-- The state of a simulated machine. -/
structure Simulated where
  scale : Scale
  /-- The tick counter. -/
  counter : UInt64 := 0
  /-- How far a read moves the counter. -/
  step : UInt64 := 1
  /-- Nanoseconds asleep. -/
  slept : UInt64 := 0
  /-- Net change made by setting the wall clock, in nanoseconds. -/
  wallShift : Int := 0
  /-- The boot time that is reported. -/
  bootReport : Timeval
  /-- Boot time reads that still move the reported time on by a second. -/
  bootBumps : UInt32 := 0
  /-- The reading of a stopped wall clock. -/
  frozenWall : Option Timeval := none
  wallReadsFail : Bool := false
  wallWritesFail : Bool := false
  bootReadsFail : Bool := false
  scaleFails : Bool := false
  processCpu : Timeval := ⟨0, 250000⟩
  threadCpu : Timeval := ⟨0, 125000⟩
  /-- The values that the wall clock was set to, the latest last. -/
  wallWrites : List Timeval := []
  deriving DecidableEq, Repr

namespace Simulated

/-- Wall time at boot in nanoseconds since the epoch. -/
def bootWall : Int := 1700000000 * nanosPerSecond

/-- Nanoseconds in a number of ticks, rounded down and saturating. -/
def nanosOfTicks (scale : Scale) (ticks : UInt64) : UInt64 :=
  .ofNatClamp (ticks.toNat * scale.numer.toNat / max scale.denom.toNat 1)

/-- Ticks in a number of nanoseconds, rounded down and saturating. -/
def ticksOfNanos (scale : Scale) (nanos : UInt64) : UInt64 :=
  .ofNatClamp (nanos.toNat * scale.denom.toNat / max scale.numer.toNat 1)

/-! ## Time passing -/

/-- Let time pass awake: counter and wall clock go on. -/
def advance (elapsed : Duration) (s : Simulated) : Simulated :=
  { s with counter := s.counter + ticksOfNanos s.scale elapsed.clampedNanos }

/-- Sleep: the wall clock goes on and the counter stands still. -/
def sleep (span : Duration) (s : Simulated) : Simulated :=
  { s with slept := .ofNatClamp (s.slept.toNat + span.clampedNanos.toNat) }

/-- A machine with a tick scale that was booted an hour ago. -/
def withScale (scale : Scale) : Simulated :=
  advance .hour { scale, bootReport := .ofExactNanos bootWall }

/-- A 24 MHz machine that was booted an hour ago. -/
def new : Simulated := withScale .megahertz24

/-- The exact wall time at a counter value, in nanoseconds. -/
def wallNanosAt (s : Simulated) (ticks : UInt64) : Int :=
  bootWall + (nanosOfTicks s.scale ticks).toNat + s.slept.toNat + s.wallShift

/-- The wall clock at the current counter value. -/
def wallNow (s : Simulated) : Timeval := .ofExactNanos (s.wallNanosAt s.counter)

/-- Move the counter on by a step. -/
def stepped (s : Simulated) : Simulated := { s with counter := s.counter + s.step }

/-! ## Controls -/

/-- Set how far a read moves the counter. -/
def setStep (step : UInt64) (s : Simulated) : Simulated := { s with step }

/-- Report a boot time that is off by a number of nanoseconds. -/
def setBootSkew (skew : Int64) (s : Simulated) : Simulated :=
  { s with bootReport := .ofExactNanos (bootWall + skew.toInt) }

/-- Report the boot time without its fraction of a second. -/
def truncateBoot (s : Simulated) : Simulated :=
  { s with bootReport := { s.bootReport with usec := 0 } }

/-- Make the next reads of the boot time move it on by a second each. -/
def bumpBoot (reads : UInt32) (s : Simulated) : Simulated := { s with bootBumps := reads }

/-- Stop the wall clock at its current value, or let it run again. -/
def freezeWall (frozen : Bool) (s : Simulated) : Simulated :=
  { s with frozenWall := if frozen then some s.wallNow else none }

/-- Make wall clock reads fail or succeed. -/
def failWallReads (fail : Bool) (s : Simulated) : Simulated := { s with wallReadsFail := fail }

/-- Make setting the wall clock fail or succeed. -/
def failWallWrites (fail : Bool) (s : Simulated) : Simulated := { s with wallWritesFail := fail }

/-- Make boot time reads fail or succeed. -/
def failBootReads (fail : Bool) (s : Simulated) : Simulated := { s with bootReadsFail := fail }

/-- Make scale reads fail or succeed. -/
def failScale (fail : Bool) (s : Simulated) : Simulated := { s with scaleFails := fail }

/-- Set the processor times that are reported. -/
def setCpu (process thread : Timeval) (s : Simulated) : Simulated :=
  { s with processCpu := process, threadCpu := thread }

/-! ## The machine -/

/-- Read the wall clock. The counter moves on also when the read fails. -/
def readWall (s : Simulated) : Except ClockError Timeval × Simulated :=
  let s := s.stepped
  if s.wallReadsFail then (.error (.os ClockError.eio), s)
  else (.ok (s.frozenWall.getD s.wallNow), s)

/-- Set the wall clock, which moves the reported boot time by the same amount. -/
def writeWall (time : Timeval) (s : Simulated) : Except ClockError Unit × Simulated :=
  if s.wallWritesFail then (.error (.os ClockError.eperm), s)
  else
    let change := time.exactNanos - s.wallNanosAt s.counter
    (.ok (), { s with
      wallShift := s.wallShift + change
      bootReport := .ofExactNanos (s.bootReport.exactNanos + change)
      wallWrites := s.wallWrites ++ [time] })

/-- Read the counter after moving it on. -/
def readTicks (s : Simulated) : UInt64 × Simulated := (s.stepped.counter, s.stepped)

/-- Read the counter as it stands, in units of 1024 ticks. -/
def readCoarseTicks (s : Simulated) : UInt64 × Simulated := (s.counter &&& ~~~0x3ff, s)

/-- Read the tick scale. -/
def readScale (s : Simulated) : Except ClockError Scale × Simulated :=
  if s.scaleFails then (.error (.calibration "timebase query failed"), s) else (.ok s.scale, s)

/-- Read the boot time, which moves on afterwards while bumps remain. -/
def readBoot (s : Simulated) : Except ClockError Timeval × Simulated :=
  if s.bootReadsFail then (.error (.os ClockError.eio), s)
  else if s.bootBumps = 0 then (.ok s.bootReport, s)
  else
    (.ok s.bootReport, { s with
      bootBumps := s.bootBumps - 1
      bootReport := { s.bootReport with sec := s.bootReport.sec + 1 } })

/-- The time sources of a simulated machine. -/
def machine : Machine Simulated where
  wall := readWall
  setWall := writeWall
  ticks := readTicks
  coarseTicks? := some readCoarseTicks
  scale := readScale
  boot := readBoot
  processCpu s := (.ok s.processCpu, s)
  threadCpu s := (.ok s.threadCpu, s)

end Simulated

end SoftClock
