import SoftClock.Machine.Simulated
import SoftClock.Proofs.Clock.Run
import SoftClock.Proofs.Machine.SimulatedTime
import SoftClock.Proofs.Time.Exact

/-!
# The Sources of an Operation

Which calls an operation of a clock makes to its machine, and which part of the clock it can change.

* A clock that shows a time of the machine makes one call, its own read, and changes nothing.
* A clock that is a plain count of ticks reads one counter, after the scale if that is not known
  yet. A resolution reads the scale at most.
* Setting a clock either sets the wall clock, once, or makes no call.
* Only operations on the continuous count change the estimator (`ClockStep.usesEstimator`).

`Clock.KeepsToSources` states this for one state of a clock and a machine, and
`Clock.operations_keepToSources` says that it holds in all of them.
-/

namespace SoftClock

variable {σ ε : Type}

/-- The source of a clock that shows a time of the machine. -/
def ClockId.timeSource? (m : Machine σ) : ClockId → Option (Source σ (Except ClockError Timeval))
  | .realtime => some ⟨.wall, m.wall⟩
  | .processCputime => some ⟨.processCpu, m.processCpu⟩
  | .threadCputime => some ⟨.threadCpu, m.threadCpu⟩
  | .monotonic | .monotonicRaw | .monotonicRawApprox | .uptimeRaw | .uptimeRawApprox => none

/-- The source of a clock that is a plain count of ticks. A machine without a coarse counter shows
the precise one in its place. -/
def ClockId.counterSource? (m : Machine σ) : ClockId → Option (Source σ UInt64)
  | .monotonicRaw | .uptimeRaw => some ⟨.ticks, m.ticks⟩
  | .monotonicRawApprox | .uptimeRawApprox =>
    some ⟨if m.coarseTicks?.isSome then .coarseTicks else .ticks, m.approxTicks⟩
  | .realtime | .monotonic | .processCputime | .threadCputime => none

/-- The operation may estimate the sleep offset, or make the next read do so. -/
def ClockStep.usesEstimator : ClockStep ε → Bool
  | .nanos .monotonic | .split .monotonic | .continuousTime | .continuousApproxTime
  | .refreshOffset | .invalidateOffset => true
  | _ => false

/-- How a time of the machine is split into seconds and nanoseconds. The wall clock may show a time
before the epoch, so it does not go through a count of nanoseconds. -/
def ClockId.splitTime : ClockId → Timeval → Timespec
  | .realtime, time => time.toTimespec
  | _, time => Clock.splitTimespec time.nanos

namespace Clock

/-- The call of an operation that asks for the scale: none once the scale is known. -/
def scaleCalls (m : Machine σ) (c : Clock) (s : σ) : List (MachineRecord σ) :=
  match c.ratio? with
  | some _ => []
  | none => [⟨s, .scale (m.scale s).1⟩]

/-- Two clocks differ at most in whether their scale is known. -/
structure SameButScale (c c' : Clock) : Prop where
  settings : c'.settings = c.settings
  continuous : c'.continuous = c.continuous

/-- What the operations on a clock and a machine do to both of them. -/
structure KeepsToSources (m : Machine σ) (act : ε → σ → σ) (c : Clock) (s : σ) : Prop where
  /-- A time of the machine takes one call. Its error is passed on, and the clock stays as it is. -/
  time : ∀ id source, id.timeSource? m = some source →
    c.queryNanos m.recorded id (s, []) =
        ((source.read s).1.map Timeval.nanos, c, (source.read s).2, [source.note s]) ∧
      c.querySplit m.recorded id (s, []) =
        ((source.read s).1.map id.splitTime, c, (source.read s).2, [source.note s])
  /-- A plain count of ticks takes one call after that for the scale, and always has an answer. -/
  counter : ∀ id source, id.counterSource? m = some source → ∃ converter c' t,
    c.converter m s = (converter, c', t) ∧ c.SameButScale c' ∧
      c.queryNanos m.recorded id (s, []) =
        (.ok (converter.ticksToNanos (source.read t).1), c', (source.read t).2,
          source.note t :: c.scaleCalls m s) ∧
      c.querySplit m.recorded id (s, []) =
        (.ok (splitTimespec (converter.ticksToNanos (source.read t).1)), c', (source.read t).2,
          source.note t :: c.scaleCalls m s)
  /-- A resolution takes the call for the scale at most, and always has an answer. -/
  resolution : ∀ id, ∃ answer c' t, c.SameButScale c' ∧
    c.resolution m.recorded id (s, []) =
      (.ok answer, c', t, if id.isTickDerived then c.scaleCalls m s else [])
  /-- Setting the wall clock to a proper time takes one call, whose outcome is the answer. -/
  set : ∀ time : Timespec, time.IsNormalized →
    ∃ value : Timeval, value.sec = time.sec ∧ value.usec.toInt = time.nsec.toInt / 1000 ∧
      setTime m.recorded .realtime time (s, []) =
        ((m.setWall value s).1, (m.setWall value s).2,
          [⟨s, .setWall value (m.setWall value s).1⟩])
  /-- Any other setting is refused without a call. -/
  refused : ∀ id (time : Timespec), ¬ (id = .realtime ∧ time.IsNormalized) →
    ∃ reason, setTime m.recorded id time (s, []) = (.error (.invalidArgument reason), s, []) ∧
      (ClockError.invalidArgument reason).errno = 22
  /-- All but the operations on the continuous count leave the estimator as it is. -/
  estimator : ∀ step : ClockStep ε, step.usesEstimator = false →
    (step.perform m act c s).2.1.continuous = c.continuous

/-! ## The scale -/

section Scale

variable (m : Machine σ) (c : Clock) (s : σ)

/-- Asking for the converter can change only what is known of the scale. -/
theorem converter_sameButScale : c.SameButScale (c.converter m s).2.1 := by
  obtain ⟨ratio?, t, -, hconverter⟩ := c.converter_calibrates m s
  rw [hconverter]
  exact ⟨rfl, rfl⟩

/-- Asking for the converter makes the call for the scale and no other. -/
theorem converter_recorded (records : List (MachineRecord σ)) :
    c.converter m.recorded (s, records) =
      ((c.converter m s).1, (c.converter m s).2.1, (c.converter m s).2.2,
        c.scaleCalls m s ++ records) := by
  unfold Clock.converter scaleCalls
  cases c.ratio? with
  | some ratio => rfl
  | none =>
    simp only [Machine.recorded, Machine.noted, Machine.noting]
    rcases hscale : m.scale s with ⟨answer, t⟩
    cases answer with
    | error e => rfl
    | ok scale => cases hratio : Ratio.ofScale scale <;> simp [hratio]

end Scale

/-! ## Reads -/

variable {m : Machine σ} {c : Clock} {s : σ}

/-- The time of a plain counter, over a machine with a record. -/
theorem counterNanos_recorded {source : Source σ UInt64} (m : Machine σ) (c : Clock) (s : σ) :
    c.counterNanos (Machine.recording source.event source.read) m.recorded (s, []) =
      ((c.converter m s).1.ticksToNanos (source.read (c.converter m s).2.2).1,
        (c.converter m s).2.1, (source.read (c.converter m s).2.2).2,
        source.note (c.converter m s).2.2 :: c.scaleCalls m s) := by
  simp only [counterNanos, converter_recorded, List.append_nil]
  rfl

/-- The counter of a clock, over a machine with a record. -/
theorem queryNanos_counter {id : ClockId} {source : Source σ UInt64}
    (hsource : id.counterSource? m = some source) (t : σ × List (MachineRecord σ)) :
    c.queryNanos m.recorded id t =
      (.ok (c.counterNanos (Machine.recording source.event source.read) m.recorded t).1,
        (c.counterNanos (Machine.recording source.event source.read) m.recorded t).2) := by
  have hcoarse : m.recorded.approxTicks = Machine.recording
      (if m.coarseTicks?.isSome then .coarseTicks else .ticks) m.approxTicks :=
    m.recorded_approxSource
  cases id with
  | monotonicRaw | uptimeRaw =>
    cases hsource
    rfl
  | monotonicRawApprox | uptimeRawApprox =>
    cases hsource
    rw [← hcoarse]
    rfl
  | realtime | monotonic | processCputime | threadCputime => cases hsource

/-- A clock other than the wall clock is split from its nanoseconds. -/
theorem querySplit_of_queryNanos {id : ClockId} (hwall : id ≠ .realtime)
    {answer : Except ClockError UInt64} {c' : Clock} {t : σ}
    (hquery : c.queryNanos m id s = (answer, c', t)) :
    c.querySplit m id s = (answer.map splitTimespec, c', t) := by
  rw [querySplit, if_neg hwall, hquery]

/-- A time of the machine is read once and passed on. -/
theorem query_time {id : ClockId} {source : Source σ (Except ClockError Timeval)}
    (hsource : id.timeSource? m = some source) :
    c.queryNanos m.recorded id (s, []) =
        ((source.read s).1.map Timeval.nanos, c, (source.read s).2, [source.note s]) ∧
      c.querySplit m.recorded id (s, []) =
        ((source.read s).1.map id.splitTime, c, (source.read s).2, [source.note s]) := by
  have hmap (answer : Except ClockError Timeval) :
      (answer.map Timeval.nanos).map splitTimespec = answer.map (splitTimespec ·.nanos) := by
    cases answer <;> rfl
  cases id with
  | realtime =>
    cases hsource
    exact ⟨rfl, rfl⟩
  | processCputime | threadCputime =>
    cases hsource
    refine ⟨rfl, ?_⟩
    rw [querySplit_of_queryNanos (by decide) rfl]
    exact congrArg (·, _) (hmap _)
  | monotonic | monotonicRaw | monotonicRawApprox | uptimeRaw | uptimeRawApprox => cases hsource

/-- A plain count of ticks is read once, after the scale. -/
theorem query_counter {id : ClockId} {source : Source σ UInt64}
    (hsource : id.counterSource? m = some source) :
    ∃ converter c' t, c.converter m s = (converter, c', t) ∧ c.SameButScale c' ∧
      c.queryNanos m.recorded id (s, []) =
        (.ok (converter.ticksToNanos (source.read t).1), c', (source.read t).2,
          source.note t :: c.scaleCalls m s) ∧
      c.querySplit m.recorded id (s, []) =
        (.ok (splitTimespec (converter.ticksToNanos (source.read t).1)), c', (source.read t).2,
          source.note t :: c.scaleCalls m s) := by
  have hquery := queryNanos_counter (c := c) hsource (s, [])
  rw [counterNanos_recorded] at hquery
  have hwall : id ≠ .realtime := by
    rintro rfl
    cases hsource
  exact ⟨_, _, _, rfl, c.converter_sameButScale m s, hquery,
    querySplit_of_queryNanos hwall hquery⟩

/-- A resolution asks for the scale at most. -/
theorem resolution_recorded (m : Machine σ) (c : Clock) (s : σ) (id : ClockId) :
    ∃ answer c' t, c.SameButScale c' ∧ c.resolution m.recorded id (s, []) =
      (.ok answer, c', t, if id.isTickDerived then c.scaleCalls m s else []) := by
  rw [resolution]
  split
  · rw [converter_recorded, List.append_nil]
    dsimp only
    split <;> exact ⟨_, _, _, c.converter_sameButScale m s, rfl⟩
  · exact ⟨_, _, _, ⟨rfl, rfl⟩, rfl⟩

/-! ## Setting a clock -/

/-- The wall clock is set with one call. -/
theorem setTime_normalized (m : Machine σ) (s : σ) {time : Timespec}
    (hproper : time.IsNormalized) :
    setTime m.recorded .realtime time (s, []) =
      ((m.setWall (.ofTimespec time) s).1, (m.setWall (.ofTimespec time) s).2,
        [⟨s, .setWall (.ofTimespec time) (m.setWall (.ofTimespec time) s).1⟩]) := by
  rw [setTime, if_pos rfl, if_pos hproper]
  rfl

/-- A setting that is refused makes no call. -/
theorem setTime_refused (m : Machine σ) (s : σ) {id : ClockId} {time : Timespec}
    (hrefused : ¬ (id = .realtime ∧ time.IsNormalized)) :
    ∃ reason, setTime m id time s = (.error (.invalidArgument reason), s) := by
  by_cases hid : id = .realtime
  · have hnormalized : ¬ time.IsNormalized := fun h => hrefused ⟨hid, h⟩
    rw [setTime, if_pos hid, if_neg hnormalized]
    exact ⟨_, rfl⟩
  · rw [setTime, if_neg hid]
    exact ⟨_, rfl⟩

/-! ## The estimator -/

/-- A clock that advances without an attempt keeps its continuous count. -/
theorem Advanced.continuous_eq {c' : Clock} {t : σ} (hadvanced : Advanced m c s none c' t) :
    c'.continuous = c.continuous := by
  cases hadvanced with
  | intro _ hprepared =>
    cases hprepared
    rfl

/-- The times of the clocks other than `monotonic` leave the continuous count as it is. -/
theorem queryNanos_continuous {id : ClockId} (hid : id ≠ .monotonic) :
    (c.queryNanos m id s).2.1.continuous = c.continuous := by
  obtain ⟨c', t, u, hadvanced, -, hquery⟩ := c.queryNanos_of_ne_monotonic m hid s
  rw [hquery]
  exact hadvanced.continuous_eq

/-- All but the operations on the continuous count leave the continuous count as it is. -/
theorem perform_continuous (m : Machine σ) (act : ε → σ → σ) (c : Clock) (s : σ)
    {step : ClockStep ε} (hstep : step.usesEstimator = false) :
    (step.perform m act c s).2.1.continuous = c.continuous := by
  have hne {id : ClockId} (hid : id = .monotonic → False) :
      (c.queryNanos m id s).2.1.continuous = c.continuous := queryNanos_continuous hid
  cases step with
  | nanos id =>
    refine hne ?_
    rintro rfl
    cases hstep
  | split id =>
    -- only the wall clock is split without a query for its count
    by_cases hwall : id = .realtime
    · subst hwall
      rfl
    · rw [ClockStep.perform, querySplit_of_queryNanos hwall rfl]
      refine hne ?_
      rintro rfl
      cases hstep
  | resolution id =>
    obtain ⟨c', t, hadvanced, hquery⟩ := c.resolution_advanced m id s
    rw [ClockStep.perform, hquery]
    exact hadvanced.continuous_eq
  | timebase => exact (c.converter_sameButScale m s).continuous
  | environment action => rfl
  | setTime id time => rfl
  | continuousTime | continuousApproxTime | refreshOffset | invalidateOffset => cases hstep

/-- A clock that has asked for nothing yet. -/
def untouched : Clock := ⟨{}, none, .new {}⟩

/-- A clock whose estimate is valid. -/
def estimated : Clock := ⟨{}, none, { Continuous.new {} with estimator := { valid := true } }⟩

/-- Each operation on the continuous count changes the estimator of some clock: without a scale a
failed attempt is counted, and a valid estimate is lost to an invalidation. -/
theorem perform_changes_estimator {step : ClockStep SimulatedAction}
    (hstep : step.usesEstimator = true) :
    ∃ c : Clock, ∃ s : Simulated,
      (step.perform Simulated.machine Simulated.act c s).2.1.continuous.estimator ≠
        c.continuous.estimator := by
  cases step with
  | nanos id | split id =>
    cases id with
    | monotonic => exact ⟨untouched, .failScale true .new, by decide +kernel⟩
    | _ => cases hstep
  | continuousTime | continuousApproxTime | refreshOffset =>
    exact ⟨untouched, .failScale true .new, by decide +kernel⟩
  | invalidateOffset => exact ⟨estimated, .new, by decide +kernel⟩
  | _ => cases hstep

/-! ## The operations -/

/-- The operations of every clock keep to their sources, on every machine. Those that may change the
estimator are named without excess: each of them does change it somewhere. -/
theorem operations_keepToSources (m : Machine σ) (act : ε → σ → σ) (c : Clock) (s : σ) :
    c.KeepsToSources m act s ∧
      ∀ step : ClockStep SimulatedAction, step.usesEstimator = true →
        ∃ (c : Clock) (s : Simulated),
          (step.perform Simulated.machine Simulated.act c s).2.1.continuous.estimator ≠
            c.continuous.estimator := by
  refine ⟨?_, fun step hstep => perform_changes_estimator hstep⟩
  exact
    { time := fun id source hsource => query_time hsource
      counter := fun id source hsource => query_counter hsource
      resolution := fun id => resolution_recorded m c s id
      set := fun time hproper =>
        ⟨.ofTimespec time, rfl, Timeval.usec_ofTimespec hproper, setTime_normalized m s hproper⟩
      refused := fun id time hrefused => by
        obtain ⟨reason, hset⟩ := setTime_refused m.recorded (s, []) hrefused
        exact ⟨reason, hset, rfl⟩
      estimator := fun step hstep => perform_continuous m act c s hstep }

end Clock

end SoftClock
