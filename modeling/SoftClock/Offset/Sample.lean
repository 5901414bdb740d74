import SoftClock.Machine.Basic
import SoftClock.Offset.Counters
import SoftClock.Settings

/-!
# Sampling the Clocks of a Machine

An estimate of the time asleep needs the wall clock and the tick counter at the same moment. The
wall clock is polled until it changes, with a counter read before and after each poll; the two
counter reads around the change bracket it.

* `pairOnce` waits for one change, within a number of polls;
* `bestPair` takes several pairs and keeps the tightest, the first one among equals;
* `takeSample` brackets that run with two reads of the boot time and starts over, within a number of
  restarts, as long as the boot time moves in between.

Brackets and restarts are counted as they happen, also in runs that fail later.
-/

namespace SoftClock

variable {σ : Type}

/-- A wall clock value seen first between two counter reads. -/
structure PairedSample where
  wall : Timeval
  before : UInt64
  after : UInt64
  deriving DecidableEq, Repr

namespace PairedSample

/-- Ticks between the two reads; zero for a counter that went back. -/
def bracket (p : PairedSample) : UInt64 := .ofNat (p.after.toNat - p.before.toNat)

/-- The counter in the middle of the bracket. -/
def midpoint (p : PairedSample) : UInt64 := p.before + p.bracket / 2

/-- The tighter of two pairs, the first one in a tie. -/
def tighter (p q : PairedSample) : PairedSample := if q.bracket < p.bracket then q else p

end PairedSample

/-- The tightest pair of a run during which the boot time stood still. -/
structure BootSample where
  boot : Timeval
  pair : PairedSample
  deriving DecidableEq, Repr

/-- Poll the wall clock until it differs from `start`, within `polls` polls. The error names the
number `allowed` of polls. -/
def awaitChange (m : Machine σ) (allowed : UInt32) (start : Timeval) :
    Nat → σ → Except ClockError PairedSample × σ
  | 0, s => (.error (.samplingExhausted allowed), s)
  | polls + 1, s =>
    match m.ticks s with
    | (before, s) =>
      match m.wall s with
      | (.error e, s) => (.error e, s)
      | (.ok wall, s) =>
        match m.ticks s with
        | (after, s) =>
          if wall = start then awaitChange m allowed start polls s
          else (.ok ⟨wall, before, after⟩, s)

/-- Wait for the next change of the wall clock. -/
def pairOnce (m : Machine σ) (allowed : UInt32) (s : σ) : Except ClockError PairedSample × σ :=
  match m.wall s with
  | (.error e, s) => (.error e, s)
  | (.ok start, s) => awaitChange m allowed start allowed.toNat s

/-- Take more pairs, keeping the tightest of them and `best`. -/
def improvePair (m : Machine σ) (allowed : UInt32) :
    Nat → PairedSample → Counters → σ → Except ClockError PairedSample × Counters × σ
  | 0, best, c, s => (.ok best, c, s)
  | more + 1, best, c, s =>
    match pairOnce m allowed s with
    | (.error e, s) => (.error e, c, s)
    | (.ok pair, s) =>
      improvePair m allowed more (best.tighter pair) (c.recordBracket pair.bracket) s

/-- The tightest of the pairs taken for one estimate, at least one. -/
def bestPair (m : Machine σ) (settings : Settings) (c : Counters) (s : σ) :
    Except ClockError PairedSample × Counters × σ :=
  match pairOnce m settings.maxWallPolls s with
  | (.error e, s) => (.error e, c, s)
  | (.ok pair, s) =>
    improvePair m settings.maxWallPolls (settings.samplesPerAttempt.toNat - 1) pair
      (c.recordBracket pair.bracket) s

/-- Sample until the boot time stands still, within a number of runs. -/
def sampleRuns (m : Machine σ) (settings : Settings) :
    Nat → Counters → σ → Except ClockError BootSample × Counters × σ
  | 0, c, s => (.error (.samplingExhausted (settings.maxBootRestarts + 1)), c, s)
  | runs + 1, c, s =>
    match m.boot s with
    | (.error e, s) => (.error e, c, s)
    | (.ok boot, s) =>
      match bestPair m settings c s with
      | (.error e, c, s) => (.error e, c, s)
      | (.ok pair, c, s) =>
        match m.boot s with
        | (.error e, s) => (.error e, c, s)
        | (.ok bootAfter, s) =>
          if boot = bootAfter then (.ok ⟨boot, pair⟩, c, s)
          else sampleRuns m settings runs c.recordBootRestart s

/-- Sample until the boot time stands still, within the restarts that the settings allow. -/
def takeSample (m : Machine σ) (settings : Settings) (c : Counters) (s : σ) :
    Except ClockError BootSample × Counters × σ :=
  sampleRuns m settings (settings.maxBootRestarts.toNat + 1) c s

end SoftClock
