import SoftClock.Clock
import SoftClock.Settings.Document

/-!
# The Clock of a Process

One clock for a whole process, and the calls by which programs written against the C library reach
it. The clock is built on first use, from the settings that the environment names, unless a program
installs its own settings before that. The C-shaped calls take raw identifiers and report failures
by error number; a buffer or a time that the caller did not pass is told by `false` or `none`.
-/

namespace SoftClock

variable {σ : Type}

/-- The clock of a process and the machine under it. -/
structure ProcessClock (σ : Type) where
  machine : Machine σ
  /-- The state of the machine. -/
  state : σ
  /-- The settings that the environment names. -/
  environment : Settings
  /-- The clock, once it has been built. -/
  clock? : Option Clock := none

namespace ProcessClock

/-- The clock, built on first use. -/
def obtain (p : ProcessClock σ) : Clock × ProcessClock σ :=
  match p.clock? with
  | some clock => (clock, p)
  | none =>
    match Clock.withSettings p.machine p.environment p.state with
    | (clock, state) => (clock, { p with state := state, clock? := some clock })

/-- Install a clock with settings of the program's own. They have to be in range, and the clock must
not have been built yet. -/
def init (settings : Settings) (p : ProcessClock σ) : Except ClockError Unit × ProcessClock σ :=
  match settings.check with
  | .error e => (.error e.toClockError, p)
  | .ok settings =>
    match p.clock? with
    | some _ => (.error (.config "clock already initialized"), p)
    | none =>
      match Clock.withSettings p.machine settings p.state with
      | (clock, state) => (.ok (), { p with state := state, clock? := some clock })

/-- Apply an operation of the clock. -/
def use {α : Type} (operation : Machine σ → Clock → σ → α × Clock × σ) (p : ProcessClock σ) :
    α × ProcessClock σ :=
  match p.obtain with
  | (clock, p) =>
    match operation p.machine clock p.state with
    | (result, clock, state) => (result, { p with state := state, clock? := some clock })

/-- Apply an operation to the clock with a raw identifier. -/
def useRaw {α : Type} (raw : Int32)
    (operation : Machine σ → ClockId → Clock → σ → Except ClockError α × Clock × σ) :
    ProcessClock σ → Except ClockError α × ProcessClock σ :=
  use fun m clock s =>
    match ClockId.ofRaw raw with
    | .ok id => operation m id clock s
    | .error e => (.error e, clock, s)

/-- The time of a clock. -/
def time (raw : Int32) : ProcessClock σ → Except ClockError Timespec × ProcessClock σ :=
  useRaw raw fun m id clock s => clock.querySplit m id s

/-- The time of a clock in nanoseconds. -/
def nanos (raw : Int32) : ProcessClock σ → Except ClockError UInt64 × ProcessClock σ :=
  useRaw raw fun m id clock s => clock.queryNanos m id s

/-- The resolution of a clock. -/
def resolution (raw : Int32) : ProcessClock σ → Except ClockError Timespec × ProcessClock σ :=
  useRaw raw fun m id clock s => clock.resolution m id s

/-- Set a clock. -/
def setTime (raw : Int32) (time : Timespec) :
    ProcessClock σ → Except ClockError Unit × ProcessClock σ :=
  useRaw raw fun m id clock s =>
    match Clock.setTime m id time s with
    | (result, s) => (result, clock, s)

/-! ## C-shaped calls -/

/-- A result whose failure is an error number. -/
def byErrno {α : Type} (result : Except ClockError α) : Except Int32 α :=
  result.mapError ClockError.errno

/-- `clock_gettime`: the time that is written, or the error number. -/
def clockGettime (raw : Int32) (hasBuffer : Bool) (p : ProcessClock σ) :
    Except Int32 Timespec × ProcessClock σ :=
  if hasBuffer then
    match p.time raw with
    | (time, p) => (byErrno time, p)
  else
    (.error ClockError.einval, p)

/-- `clock_getres`: the resolution that is written, if there is a buffer, or the error number. -/
def clockGetres (raw : Int32) (hasBuffer : Bool) (p : ProcessClock σ) :
    Except Int32 (Option Timespec) × ProcessClock σ :=
  match p.resolution raw with
  | (resolution, p) =>
    ((byErrno resolution).map fun time => if hasBuffer then some time else none, p)

/-- `clock_settime`: nothing, or the error number. -/
def clockSettime (raw : Int32) (time? : Option Timespec) (p : ProcessClock σ) :
    Except Int32 Unit × ProcessClock σ :=
  match time? with
  | none => (.error ClockError.einval, p)
  | some time =>
    match p.setTime raw time with
    | (result, p) => (byErrno result, p)

/-- `clock_gettime_nsec_np`: nanoseconds, or the error number beside a zero. -/
def clockGettimeNanos (raw : Int32) (p : ProcessClock σ) : Except Int32 UInt64 × ProcessClock σ :=
  match p.nanos raw with
  | (nanos, p) => (byErrno nanos, p)

/-- The time base of `timespec_get` that counts from the epoch. -/
def utcBase : Int32 := 1

/-- `timespec_get`: the time that is written, if the base is known and the read succeeds. -/
def timespecGet (base : Int32) (hasBuffer : Bool) (p : ProcessClock σ) :
    Option Timespec × ProcessClock σ :=
  if hasBuffer ∧ base = utcBase then
    match p.use fun m clock s => clock.querySplit m .realtime s with
    | (time, p) => (time.toOption, p)
  else
    (none, p)

/-- The continuous tick count. -/
def continuousTime : ProcessClock σ → UInt64 × ProcessClock σ :=
  use fun m clock s => clock.continuousTime m s

/-- The continuous tick count by the coarse counter. -/
def continuousApproxTime : ProcessClock σ → UInt64 × ProcessClock σ :=
  use fun m clock s => clock.continuousApproxTime m s

end ProcessClock

end SoftClock
