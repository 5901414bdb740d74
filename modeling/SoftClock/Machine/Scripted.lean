import SoftClock.Machine.Basic

/-!
# A Scripted Machine

A machine whose answers are written down in advance, one list for each time source. Each call takes
the next answer of its list; the last one is never used up. A source without any answer fails with
the error number of a failed transfer, and a counter without any answer reads zero.
-/

namespace SoftClock

/-- The answers still to be given. -/
structure Script where
  wall : List (Except ClockError Timeval) := []
  boot : List (Except ClockError Timeval) := []
  scale : List (Except ClockError Scale) := []
  processCpu : List (Except ClockError Timeval) := []
  threadCpu : List (Except ClockError Timeval) := []
  setWall : List (Except ClockError Unit) := []
  ticks : List UInt64 := []
  coarseTicks : List UInt64 := []

namespace Script

/-- The next answer of a list, and the answers after it. -/
def next {α : Type} (missing : α) : List α → α × List α
  | [] => (missing, [])
  | [last] => (last, [last])
  | answer :: rest => (answer, rest)

/-- The answer of a source that the script leaves out. -/
def unanswered {α : Type} : Except ClockError α := .error (.os ClockError.eio)

/-- The machine that plays scripts, with or without a coarse counter. -/
def machine (hasCoarse : Bool) : Machine Script where
  wall s := ((next unanswered s.wall).1, { s with wall := (next unanswered s.wall).2 })
  setWall _ s :=
    ((next unanswered s.setWall).1, { s with setWall := (next unanswered s.setWall).2 })
  ticks s := ((next 0 s.ticks).1, { s with ticks := (next 0 s.ticks).2 })
  coarseTicks? :=
    if hasCoarse then
      some fun s => ((next 0 s.coarseTicks).1, { s with coarseTicks := (next 0 s.coarseTicks).2 })
    else none
  scale s := ((next unanswered s.scale).1, { s with scale := (next unanswered s.scale).2 })
  boot s := ((next unanswered s.boot).1, { s with boot := (next unanswered s.boot).2 })
  processCpu s :=
    ((next unanswered s.processCpu).1, { s with processCpu := (next unanswered s.processCpu).2 })
  threadCpu s :=
    ((next unanswered s.threadCpu).1, { s with threadCpu := (next unanswered s.threadCpu).2 })

end Script

end SoftClock
