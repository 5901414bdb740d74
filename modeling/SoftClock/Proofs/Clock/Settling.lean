import SoftClock.Proofs.Clock.Run

/-!
# Reading the Scale First

An operation of a clock reads the scale of the counter at most once, and before anything else. What
follows needs only what is known of the scale by then, so it is the same operation on a machine
whose scale cannot be read.

* `Machine.unscaled` is that machine. The estimator and the continuous count do the same on it
  (`Estimator.refresh_unscaled`, `Continuous.readWith_unscaled`);
* `ClockStep.settle` reads the scale for a step, and `ClockStep.perform_unscaled` and
  `ClockRun.step_unscaled` leave the rest of the step to the machine without a scale;
* `ClockStep.perform_madeWith` says what answers are made with: the converter of what is known.
-/

namespace SoftClock

variable {σ ε : Type}

/-! ## Machines without a scale -/

namespace Machine

/-- The same machine with a scale that cannot be read. -/
def unscaled (m : Machine σ) : Machine σ :=
  { m with scale := fun s => (.error (.calibration "timebase query failed"), s) }

variable (m : Machine σ)

@[simp]
theorem unscaled_wall : m.unscaled.wall = m.wall := rfl

@[simp]
theorem unscaled_ticks : m.unscaled.ticks = m.ticks := rfl

@[simp]
theorem unscaled_approxTicks : m.unscaled.approxTicks = m.approxTicks := rfl

@[simp]
theorem unscaled_boot : m.unscaled.boot = m.boot := rfl

end Machine

section Sampling

variable (m : Machine σ)

@[simp]
theorem awaitChange_unscaled (allowed : UInt32) (start : Timeval) (polls : ℕ) (s : σ) :
    awaitChange m.unscaled allowed start polls s = awaitChange m allowed start polls s := by
  induction polls generalizing s with
  | zero => rfl
  | succ polls ih => simp [awaitChange, ih]

@[simp]
theorem pairOnce_unscaled (allowed : UInt32) (s : σ) :
    pairOnce m.unscaled allowed s = pairOnce m allowed s := by
  simp [pairOnce]

@[simp]
theorem improvePair_unscaled (allowed : UInt32) (more : ℕ) (best : PairedSample) (c : Counters)
    (s : σ) :
    improvePair m.unscaled allowed more best c s = improvePair m allowed more best c s := by
  induction more generalizing best c s with
  | zero => rfl
  | succ more ih => simp [improvePair, ih]

@[simp]
theorem bestPair_unscaled (settings : Settings) (c : Counters) (s : σ) :
    bestPair m.unscaled settings c s = bestPair m settings c s := by
  simp [bestPair]

@[simp]
theorem sampleRuns_unscaled (settings : Settings) (runs : ℕ) (c : Counters) (s : σ) :
    sampleRuns m.unscaled settings runs c s = sampleRuns m settings runs c s := by
  induction runs generalizing c s with
  | zero => rfl
  | succ runs ih => simp [sampleRuns, ih]

/-- An estimate does not read the scale. -/
@[simp]
theorem Estimator.refresh_unscaled (converter : Converter) (settings : Settings) (e : Estimator)
    (s : σ) :
    e.refresh m.unscaled converter settings s = e.refresh m converter settings s := by
  simp [refresh, takeSample]

end Sampling

namespace Continuous

variable (m : Machine σ) (converter : Converter) (settings : Settings) (c : Continuous) (s : σ)

@[simp]
theorem refresh_unscaled :
    c.refresh m.unscaled converter settings s = c.refresh m converter settings s := by
  simp [refresh]

@[simp]
theorem attempt?_unscaled :
    c.attempt? m.unscaled converter settings s = c.attempt? m converter settings s := by
  simp [attempt?, needsRefresh]

/-- A read of the continuous count does not read the scale. -/
@[simp]
theorem readWith_unscaled (read : σ → UInt64 × σ) :
    c.readWith read m.unscaled converter settings s = c.readWith read m converter settings s := by
  simp [readWith, prepare, needsRefresh]

end Continuous

/-- On a machine without a scale the converter is that of what is known already. -/
@[simp]
theorem Clock.converter_unscaled (m : Machine σ) (c : Clock) (s : σ) :
    c.converter m.unscaled s = (Converter.ofRatio? c.ratio?, c, s) := by
  unfold converter
  cases c.ratio? <;> rfl

/-! ## The two parts of a step -/

namespace ClockStep

/-- Whether a step asks for the converter. -/
def asks : ClockStep ε → Bool
  | .environment _ | .setTime _ _ | .invalidateOffset => false
  | .nanos id | .split id | .resolution id => id.isTickDerived
  | .continuousTime | .continuousApproxTime | .timebase | .refreshOffset => true

/-- The clock and the machine once a step has asked for the converter, if it does. -/
def settle (m : Machine σ) (c : Clock) (s : σ) (step : ClockStep ε) : Clock × σ :=
  if step.asks then (c.converter m s).2 else (c, s)

variable (m : Machine σ) (act : ε → σ → σ) (c : Clock) (s : σ)

/-- A step that asks for the converter leaves the rest to the machine without a scale. -/
theorem perform_of_asks {step : ClockStep ε} (hasks : step.asks) :
    step.perform m act c s =
      step.perform m.unscaled act (c.converter m s).2.1 (c.converter m s).2.2 := by
  obtain ⟨ratio?, t, -, hconverter⟩ := c.converter_calibrates m s
  -- each operation asks first, and on the machine without a scale asking changes nothing
  cases step with
  | environment action | setTime id time | invalidateOffset => cases hasks
  | nanos id =>
    cases id with
    | realtime | processCputime | threadCputime => cases hasks
    | _ =>
      simp [perform, Clock.queryNanos, Clock.monotonicNanos, Clock.counterNanos, Continuous.ticks,
        hconverter]
  | split id =>
    cases id with
    | realtime | processCputime | threadCputime => cases hasks
    | _ =>
      simp [perform, Clock.querySplit, Clock.queryNanos, Clock.monotonicNanos, Clock.counterNanos,
        Continuous.ticks, hconverter]
  | resolution id =>
    have hid : id.isTickDerived = true := hasks
    simp [perform, Clock.resolution, hid, hconverter]
  | continuousTime => simp [perform, Clock.continuousTime, Continuous.ticks, hconverter]
  | continuousApproxTime =>
    simp [perform, Clock.continuousApproxTime, Continuous.approxTicks, hconverter]
  | timebase => simp [perform, Clock.timebase, hconverter]
  | refreshOffset => simp [perform, Clock.refreshOffset, hconverter]

/-- A step that does not ask for the converter does not read the scale. -/
theorem perform_of_not_asks {step : ClockStep ε} (hasks : step.asks = false) :
    step.perform m act c s = step.perform m.unscaled act c s := by
  cases step with
  | environment action | setTime id time | invalidateOffset => rfl
  | nanos id | split id =>
    cases id with
    | realtime | processCputime | threadCputime => rfl
    | _ => cases hasks
  | resolution id =>
    have hid : id.isTickDerived = false := hasks
    simp [perform, Clock.resolution, hid]
  | continuousTime | continuousApproxTime | timebase | refreshOffset => cases hasks

/-- After a step has asked for the converter the rest of it is left to the machine without a scale.
-/
theorem perform_unscaled (step : ClockStep ε) :
    step.perform m act c s =
      step.perform m.unscaled act (step.settle m c s).1 (step.settle m c s).2 := by
  unfold settle
  cases hasks : step.asks with
  | true => exact perform_of_asks m act c s hasks
  | false => exact perform_of_not_asks m act c s hasks

/-- The attempt of a step comes after it has asked for the converter. -/
theorem attempt?_unscaled (step : ClockStep ε) :
    step.attempt? m c s =
      step.attempt? m.unscaled (step.settle m c s).1 (step.settle m c s).2 := by
  obtain ⟨ratio?, t, -, hconverter⟩ := c.converter_calibrates m s
  unfold settle
  cases step with
  | nanos id | split id =>
    cases id <;> simp [attempt?, asks, ClockId.isTickDerived, Clock.attempt?, hconverter]
  | refreshOffset => simp [attempt?, asks, Clock.refreshOffset, hconverter]
  | continuousTime | continuousApproxTime =>
    simp [attempt?, asks, Clock.attempt?, hconverter]
  | environment action | setTime id time | invalidateOffset | resolution id | timebase => rfl

end ClockStep

/-- A run once its next step has asked for the converter. -/
def ClockRun.settle (m : Machine σ) (run : ClockRun σ) (step : ClockStep ε) : ClockRun σ :=
  { run with
    clock := (step.settle m run.clock run.state).1
    state := (step.settle m run.clock run.state).2 }

/-- After a step of a run has asked for the converter the rest of it is left to the machine without
a scale. -/
theorem ClockRun.step_unscaled (m : Machine σ) (act : ε → σ → σ) (run : ClockRun σ)
    (step : ClockStep ε) :
    run.step m act step = (run.settle m step).step m.unscaled act step := by
  unfold ClockRun.step settle
  rw [step.perform_unscaled m act run.clock run.state,
    step.attempt?_unscaled m run.clock run.state]

/-! ## What answers are made with -/

/-- Times of `monotonic` come in whole microseconds. -/
def ClockId.grain (id : ClockId) (nanos : UInt64) : UInt64 :=
  if id = .monotonic then floorToMicros nanos else nanos

namespace ClockAnswer

/-- An answer was made with a converter: a time made from ticks is a count of ticks in nanoseconds,
a resolution is the length of a tick, and an estimate needs a timebase. -/
def MadeWith (converter : Converter) : ClockAnswer → Prop
  | .nanos id answer =>
    id.isTickDerived → ∃ ticks, answer = .ok (id.grain (converter.ticksToNanos ticks))
  | .split id answer =>
    id.isTickDerived →
      ∃ ticks, answer = .ok (Clock.splitTimespec (id.grain (converter.ticksToNanos ticks)))
  | .resolution id answer =>
    id.isTickDerived →
      answer = .ok (.ofNanos (if id = .monotonic ∧ 0 < converter.resolution then
        max converter.resolution 1000 else converter.resolution))
  | .timebase scale? => scale? = converter.scale?
  | .refreshOffset answer =>
    converter = .degraded → answer = .error (.calibration "no timebase for offset estimate")
  | .setTime _ | .continuousTime _ | .continuousApproxTime _ => True

/-- What an answer is without a timebase: times and resolutions made from ticks are zero. -/
def IsZero : ClockAnswer → Prop
  | .nanos id answer => id.isTickDerived → answer = .ok 0
  | .split id answer | .resolution id answer => id.isTickDerived → answer = .ok ⟨0, 0⟩
  | .timebase scale? => scale? = none
  | .refreshOffset answer => answer = .error (.calibration "no timebase for offset estimate")
  | .setTime _ | .continuousTime _ | .continuousApproxTime _ => True

/-- A query of a clock that is made from ticks was answered without an error. -/
def IsAnswered : ClockAnswer → Prop
  | .nanos id answer => id.isTickDerived → ∃ nanos, answer = .ok nanos
  | .split id answer | .resolution id answer => id.isTickDerived → ∃ time, answer = .ok time
  | _ => True

variable {answer : ClockAnswer} {converter : Converter}

/-- Answers without a timebase are zero. -/
theorem MadeWith.isZero (h : answer.MadeWith .degraded) : answer.IsZero := by
  have hgrain (id : ClockId) : id.grain 0 = 0 := by cases id <;> rfl
  cases answer with
  | nanos id answer =>
    intro hid
    obtain ⟨ticks, rfl⟩ := h hid
    show Except.ok (id.grain 0) = _
    rw [hgrain]
  | split id answer =>
    intro hid
    obtain ⟨ticks, rfl⟩ := h hid
    show Except.ok (Clock.splitTimespec (id.grain 0)) = _
    rw [hgrain]
    rfl
  | resolution id answer =>
    intro hid
    rw [h hid, if_neg]
    · rfl
    · exact fun hpos => absurd hpos.2 (UInt64.lt_irrefl 0)
  | timebase scale? => exact h
  | refreshOffset answer => exact h rfl
  | setTime _ | continuousTime _ | continuousApproxTime _ => trivial

/-- With and without a timebase the clocks made from ticks are answered. -/
theorem MadeWith.isAnswered (h : answer.MadeWith converter) : answer.IsAnswered := by
  cases answer with
  | nanos id answer => exact fun hid => ⟨_, (h hid).choose_spec⟩
  | split id answer => exact fun hid => ⟨_, (h hid).choose_spec⟩
  | resolution id answer => exact fun hid => ⟨_, h hid⟩
  | _ => trivial

end ClockAnswer

/-- Times made from ticks are made with what is known of the scale. -/
theorem Clock.queryNanos_madeWith {m : Machine σ} {c : Clock} {s : σ} {id : ClockId}
    (hid : id.isTickDerived) :
    ∃ ticks, (c.queryNanos m.unscaled id s).1 =
      .ok (id.grain ((Converter.ofRatio? c.ratio?).ticksToNanos ticks)) := by
  cases id with
  | realtime | processCputime | threadCputime => cases hid
  | monotonic =>
    simp only [queryNanos, monotonicNanos, converter_unscaled]
    exact ⟨_, rfl⟩
  | monotonicRaw | monotonicRawApprox | uptimeRaw | uptimeRawApprox =>
    simp only [queryNanos, counterNanos, converter_unscaled]
    exact ⟨_, rfl⟩

namespace ClockStep

variable {m : Machine σ} {act : ε → σ → σ} {c : Clock} {s : σ}

/-- Once a step has asked for the converter, its answer is made with what is known of the scale. -/
theorem perform_madeWith {step : ClockStep ε} {answer : ClockAnswer}
    (h : (step.perform m.unscaled act c s).1 = some answer) :
    answer.MadeWith (Converter.ofRatio? c.ratio?) := by
  cases step with
  | environment action | invalidateOffset => cases h
  | setTime id time | continuousTime | continuousApproxTime =>
    cases h
    trivial
  | nanos id =>
    cases h
    exact Clock.queryNanos_madeWith
  | split id =>
    cases h
    intro hid
    obtain ⟨ticks, hticks⟩ := Clock.queryNanos_madeWith (m := m) (c := c) (s := s) hid
    -- only the wall clock is split in its own way
    have hwall : id ≠ .realtime := by
      rintro rfl
      cases hid
    exact ⟨ticks, by simp [Clock.querySplit, hwall, hticks, Except.map]⟩
  | resolution id =>
    cases h
    intro hid
    simp only [Clock.resolution, hid, if_true, Clock.converter_unscaled]
    split <;> rfl
  | timebase =>
    cases h
    simp [ClockAnswer.MadeWith, Clock.timebase]
  | refreshOffset =>
    cases h
    intro hconverter
    simp [Clock.refreshOffset, hconverter, Continuous.refresh, Estimator.refresh]

/-- Without a timebase every attempt fails. -/
theorem attempt_failed {step : ClockStep ε} (hratio : c.ratio? = none)
    {outcome : Except ClockError RefreshOutcome}
    (h : step.attempt? m.unscaled c s = some outcome) :
    outcome = .error (.calibration "no timebase for offset estimate") := by
  have hread : c.attempt? m.unscaled s = some outcome →
      outcome = .error (.calibration "no timebase for offset estimate") := by
    intro h
    simp only [Clock.attempt?, Clock.converter_unscaled, hratio] at h
    -- a read that estimates has its estimate refused for want of a timebase
    unfold Continuous.attempt? at h
    split at h
    · cases h
    all_goals
      split at h
      · cases h
        rfl
      · cases h
  cases step with
  | environment action | setTime id time | resolution id | timebase | invalidateOffset => cases h
  | nanos id | split id =>
    cases id with
    | monotonic => exact hread h
    | _ => cases h
  | continuousTime | continuousApproxTime => exact hread h
  | refreshOffset =>
    cases h
    simp only [Clock.refreshOffset, Clock.converter_unscaled, hratio]
    rfl

end ClockStep

end SoftClock
