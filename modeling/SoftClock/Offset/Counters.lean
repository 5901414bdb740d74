import SoftClock.ClockError

/-!
# Estimator Counters

How many estimates were attempted and how each one ended, with the tightest pair of reads seen so
far.
-/

namespace SoftClock

/-- Counts over the life of an estimator. -/
structure Counters where
  /-- Estimates started. -/
  attempts : UInt64 := 0
  /-- Estimates that replaced the committed offset. -/
  commits : UInt64 := 0
  /-- Estimates that did not clear the margin. -/
  rejections : UInt64 := 0
  /-- Restarts because the boot time moved. -/
  bootRestarts : UInt64 := 0
  /-- Estimates abandoned because a bounded loop ran out. -/
  exhausted : UInt64 := 0
  /-- Estimates abandoned because a read failed. -/
  readFailures : UInt64 := 0
  /-- The tightest bracket around a change of the wall clock, in ticks. -/
  bestBracket : Option UInt64 := none
  deriving DecidableEq, Repr

namespace Counters

/-- Count an attempt. -/
def recordAttempt (c : Counters) : Counters := { c with attempts := c.attempts + 1 }

/-- Count a commit. -/
def recordCommit (c : Counters) : Counters := { c with commits := c.commits + 1 }

/-- Count a rejection. -/
def recordRejection (c : Counters) : Counters := { c with rejections := c.rejections + 1 }

/-- Count a restart. -/
def recordBootRestart (c : Counters) : Counters := { c with bootRestarts := c.bootRestarts + 1 }

/-- Count an attempt whose loop ran out. -/
def recordExhausted (c : Counters) : Counters := { c with exhausted := c.exhausted + 1 }

/-- Count an attempt with a failed read. -/
def recordReadFailure (c : Counters) : Counters := { c with readFailures := c.readFailures + 1 }

/-- Count an attempt that ended with `error`. -/
def recordFailure (c : Counters) (error : ClockError) : Counters :=
  if error.isExhaustion then c.recordExhausted else c.recordReadFailure

/-- Note the width of a bracket. The widest possible one says nothing and is not kept. -/
def recordBracket (c : Counters) (ticks : UInt64) : Counters :=
  if ticks = 0xffffffffffffffff then c
  else { c with bestBracket := some ((c.bestBracket.map (min ticks)).getD ticks) }

/-- The part of the completed estimates that committed, if any completed. -/
def commitRatio? (c : Counters) : Option Float :=
  if c.commits + c.rejections = 0 then none
  else some (c.commits.toFloat / (c.commits + c.rejections).toFloat)

end Counters

end SoftClock
