import SoftClock.ClockError
import SoftClock.Time.Timespec
import SoftClock.Timebase.Scale

/-!
# Machines

The time sources that clocks are built on. A machine with hidden state `σ` answers each call from
its state and moves to the next one, so any behaviour over time, failures included, is a machine.

`Machine.noted` is the same machine with a note of every call made to it. What is noted is a
parameter: `Machine.logged` notes the calls alone.
-/

namespace SoftClock

/-- The time sources of a machine with state `σ`. Counter reads cannot fail. -/
structure Machine (σ : Type) where
  /-- Read the wall clock. -/
  wall : σ → Except ClockError Timeval × σ
  /-- Set the wall clock. -/
  setWall : Timeval → σ → Except ClockError Unit × σ
  /-- Read the tick counter. -/
  ticks : σ → UInt64 × σ
  /-- Read a coarser view of the tick counter, where the machine has one. -/
  coarseTicks? : Option (σ → UInt64 × σ) := none
  /-- Read the scale of the tick counter. -/
  scale : σ → Except ClockError Scale × σ
  /-- Read the wall time at which the machine started. -/
  boot : σ → Except ClockError Timeval × σ
  /-- Read the processor time of the process. -/
  processCpu : σ → Except ClockError Timeval × σ
  /-- Read the processor time of the calling thread. -/
  threadCpu : σ → Except ClockError Timeval × σ

/-- A call to a machine. -/
inductive MachineCall where
  | wall
  | setWall (time : Timeval)
  | ticks
  | coarseTicks
  | scale
  | boot
  | processCpu
  | threadCpu
  deriving DecidableEq, Repr

/-- A call to a machine with its answer. -/
inductive MachineEvent where
  | wall (answer : Except ClockError Timeval)
  | setWall (time : Timeval) (answer : Except ClockError Unit)
  | ticks (answer : UInt64)
  | coarseTicks (answer : UInt64)
  | scale (answer : Except ClockError Scale)
  | boot (answer : Except ClockError Timeval)
  | processCpu (answer : Except ClockError Timeval)
  | threadCpu (answer : Except ClockError Timeval)

/-- The call of an event, without its answer. -/
def MachineEvent.call : MachineEvent → MachineCall
  | .wall _ => .wall
  | .setWall time _ => .setWall time
  | .ticks _ => .ticks
  | .coarseTicks _ => .coarseTicks
  | .scale _ => .scale
  | .boot _ => .boot
  | .processCpu _ => .processCpu
  | .threadCpu _ => .threadCpu

namespace Machine

variable {σ ν : Type}

/-- Read the coarse counter, or the precise one on a machine without it. -/
def approxTicks (m : Machine σ) : σ → UInt64 × σ := m.coarseTicks?.getD m.ticks

/-- A call that is also noted: the state in which it was made, and what it was answered. -/
def noting {α : Type} (note : σ → MachineEvent → ν) (event : α → MachineEvent)
    (call : σ → α × σ) (s : σ × List ν) : α × σ × List ν :=
  ((call s.1).1, (call s.1).2, note s.1 (event (call s.1).1) :: s.2)

/-- The same machine with a note of every call, the newest first. -/
def noted (note : σ → MachineEvent → ν) (m : Machine σ) : Machine (σ × List ν) where
  wall := noting note .wall m.wall
  setWall time := noting note (.setWall time) (m.setWall time)
  ticks := noting note .ticks m.ticks
  coarseTicks? := m.coarseTicks?.map (noting note .coarseTicks)
  scale := noting note .scale m.scale
  boot := noting note .boot m.boot
  processCpu := noting note .processCpu m.processCpu
  threadCpu := noting note .threadCpu m.threadCpu

/-- The same machine with a log of its calls. -/
def logged (m : Machine σ) : Machine (σ × List MachineCall) := m.noted fun _ event => event.call

end Machine

end SoftClock
