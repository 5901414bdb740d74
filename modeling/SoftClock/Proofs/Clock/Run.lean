import SoftClock.Proofs.Clock.Operations
import SoftClock.Proofs.Machine.Recorded

/-!
# Runs of a Clock

A run builds a clock on a machine and applies steps one after the other: operations of the clock in
any order, and actions of the environment on the machine between them. It keeps what the operations
answered, and how every attempt to estimate the sleep offset ended, those included that building the
clock or reading it makes.

* `ClockRun.step_change` says what one step can do, which later inductions split on;
* `ClockRun.run_recorded` says that keeping a record of the machine changes nothing.
-/

namespace SoftClock

variable {σ τ ε : Type}

/-- A step of a run with actions of the environment in `ε`. -/
inductive ClockStep (ε : Type) where
  | environment (action : ε)
  | nanos (id : ClockId)
  | split (id : ClockId)
  | resolution (id : ClockId)
  | setTime (id : ClockId) (time : Timespec)
  | continuousTime
  | continuousApproxTime
  | timebase
  | refreshOffset
  | invalidateOffset

/-- What an operation answered. -/
inductive ClockAnswer where
  | nanos (id : ClockId) (answer : Except ClockError UInt64)
  | split (id : ClockId) (answer : Except ClockError Timespec)
  | resolution (id : ClockId) (answer : Except ClockError Timespec)
  | setTime (answer : Except ClockError Unit)
  | continuousTime (ticks : UInt64)
  | continuousApproxTime (ticks : UInt64)
  | timebase (scale? : Option Scale)
  | refreshOffset (outcome : Except ClockError RefreshOutcome)
  deriving DecidableEq

namespace ClockAnswer

/-- The time of `monotonic`, or a count that it is made from. -/
def isContinuous : ClockAnswer → Bool
  | .nanos .monotonic _ | .continuousTime _ | .continuousApproxTime _ => true
  | _ => false

end ClockAnswer

/-- A clock, the machine under it, and what happened so far. -/
structure ClockRun (σ : Type) where
  clock : Clock
  state : σ
  /-- What the operations answered, the newest first. -/
  answers : List ClockAnswer
  /-- How the attempts to estimate the sleep offset ended, the newest first. -/
  attempts : List (Except ClockError RefreshOutcome)

namespace ClockStep

variable (m : Machine σ) (act : ε → σ → σ)

/-- The outcome of the attempt that a step makes, if it makes one. -/
def attempt? (c : Clock) (s : σ) : ClockStep ε → Option (Except ClockError RefreshOutcome)
  | .refreshOffset => some (c.refreshOffset m s).1
  | .nanos .monotonic | .split .monotonic | .continuousTime | .continuousApproxTime =>
    c.attempt? m s
  | _ => none

/-- The answer of a step, if it is an operation with one, with the clock and the machine after it.
-/
def perform (c : Clock) (s : σ) : ClockStep ε → Option ClockAnswer × Clock × σ
  | .environment action => (none, c, act action s)
  | .nanos id => (some (.nanos id (c.queryNanos m id s).1), (c.queryNanos m id s).2)
  | .split id => (some (.split id (c.querySplit m id s).1), (c.querySplit m id s).2)
  | .resolution id => (some (.resolution id (c.resolution m id s).1), (c.resolution m id s).2)
  | .setTime id time =>
    (some (.setTime (Clock.setTime m id time s).1), c, (Clock.setTime m id time s).2)
  | .continuousTime => (some (.continuousTime (c.continuousTime m s).1), (c.continuousTime m s).2)
  | .continuousApproxTime =>
    (some (.continuousApproxTime (c.continuousApproxTime m s).1), (c.continuousApproxTime m s).2)
  | .timebase => (some (.timebase (c.timebase m s).1), (c.timebase m s).2)
  | .refreshOffset => (some (.refreshOffset (c.refreshOffset m s).1), (c.refreshOffset m s).2)
  | .invalidateOffset => (none, c.invalidateOffset, s)

end ClockStep

namespace ClockRun

/-- The run of a clock that was just built. -/
def start (m : Machine σ) (settings : Settings) (s : σ) : ClockRun σ where
  clock := (Clock.withSettings m settings s).1
  state := (Clock.withSettings m settings s).2
  answers := []
  attempts :=
    if settings.eagerInit then [(Clock.refreshOffset m ⟨settings, none, .new settings⟩ s).1] else []

variable (m : Machine σ) (act : ε → σ → σ)

/-- A run after one more step. -/
def step (run : ClockRun σ) (step : ClockStep ε) : ClockRun σ where
  clock := (step.perform m act run.clock run.state).2.1
  state := (step.perform m act run.clock run.state).2.2
  answers := (step.perform m act run.clock run.state).1.toList ++ run.answers
  attempts := (step.attempt? m run.clock run.state).toList ++ run.attempts

/-- A run after more steps. -/
def run (run : ClockRun σ) (steps : List (ClockStep ε)) : ClockRun σ := steps.foldl (step m act) run

/-- The last step of a run. -/
theorem run_concat (run : ClockRun σ) (before : List (ClockStep ε)) (last : ClockStep ε) :
    run.run m act (before ++ [last]) = (run.run m act before).step m act last := by
  unfold ClockRun.run
  rw [List.foldl_append, List.foldl_cons, List.foldl_nil]

/-- The calls that a run makes to its machine, the newest first. Building the clock is the first
part of the run. -/
def record (settings : Settings) (s : σ) (steps : List (ClockStep ε)) : List (MachineRecord σ) :=
  ((start m.recorded settings (s, [])).run m.recorded (Machine.besideRecord act) steps).state.2

/-! ## What a step can do -/

/-- The change of a run by a step. An operation of the clock advances it; those on the continuous
count then read a counter and answer by the sum of that read and the addend. -/
inductive Change : ClockStep ε → ClockRun σ → ClockRun σ → Prop
  | environment (action : ε) (run : ClockRun σ) :
    Change (.environment action) run { run with state := act action run.state }
  | invalidated (run : ClockRun σ) :
    Change .invalidateOffset run { run with clock := run.clock.invalidateOffset }
  | timeSet {id : ClockId} {time : Timespec} {run : ClockRun σ} {answer : Except ClockError Unit}
    {t : σ} :
    Clock.setTime m id time run.state = (answer, t) →
    Change (.setTime id time) run
      { run with state := t, answers := .setTime answer :: run.answers }
  | other {step : ClockStep ε} {run : ClockRun σ} {c : Clock} {t u : σ} {answer : ClockAnswer}
    {outcome? : Option (Except ClockError RefreshOutcome)} :
    Clock.Advanced m run.clock run.state outcome? c t → m.Reads t u →
    answer.isContinuous = false →
    Change step run ⟨c, u, answer :: run.answers, outcome?.toList ++ run.attempts⟩
  | monotonic {step : ClockStep ε} {run : ClockRun σ} {c : Clock} {t u : σ} {ticks : UInt64}
    {outcome? : Option (Except ClockError RefreshOutcome)} :
    Clock.Advanced m run.clock run.state outcome? c t → m.ticks t = (ticks, u) →
    Change step run
      ⟨c, u, .nanos .monotonic (.ok (floorToMicros
        ((Converter.ofRatio? c.ratio?).ticksToNanos (ticks + c.continuous.addend)))) ::
          run.answers, outcome?.toList ++ run.attempts⟩
  | continuous {step : ClockStep ε} {run : ClockRun σ} {c : Clock} {t u : σ} {ticks : UInt64}
    {outcome? : Option (Except ClockError RefreshOutcome)} :
    Clock.Advanced m run.clock run.state outcome? c t → m.ticks t = (ticks, u) →
    Change step run ⟨c, u, .continuousTime (ticks + c.continuous.addend) :: run.answers,
      outcome?.toList ++ run.attempts⟩
  | approx {step : ClockStep ε} {run : ClockRun σ} {c : Clock} {t u : σ} {ticks : UInt64}
    {outcome? : Option (Except ClockError RefreshOutcome)} :
    Clock.Advanced m run.clock run.state outcome? c t → m.approxTicks t = (ticks, u) →
    Change step run ⟨c, u, .continuousApproxTime (ticks + c.continuous.addend) :: run.answers,
      outcome?.toList ++ run.attempts⟩

variable {m act}

/-- A time of `monotonic` in whole nanoseconds. -/
theorem change_nanos (run : ClockRun σ) (id : ClockId) :
    Change m act (.nanos id) run (run.step m act (.nanos id)) := by
  by_cases hid : id = .monotonic
  · subst hid
    obtain ⟨c, t, hadvanced, hquery⟩ := run.clock.queryNanos_monotonic m run.state
    simp only [step, ClockStep.perform, ClockStep.attempt?, hquery]
    exact .monotonic hadvanced rfl
  · obtain ⟨c, t, u, hadvanced, hreads, hquery⟩ :=
      run.clock.queryNanos_of_ne_monotonic m hid run.state
    -- no other time makes an attempt
    have hattempt : (ClockStep.nanos id : ClockStep ε).attempt? m run.clock run.state = none := by
      cases id <;> first | rfl | contradiction
    simp only [step, ClockStep.perform, hattempt, hquery]
    refine .other hadvanced hreads ?_
    cases id <;> first | rfl | contradiction

/-- A time in seconds and nanoseconds, that of `monotonic` included, is not counted as continuous.
-/
theorem change_split (run : ClockRun σ) (id : ClockId) :
    Change m act (.split id) run (run.step m act (.split id)) := by
  by_cases hid : id = .monotonic
  · subst hid
    -- split into seconds it is the same read, but the answer is of another kind
    obtain ⟨c, t, hadvanced, hquery⟩ := run.clock.queryNanos_monotonic m run.state
    simp only [step, ClockStep.perform, ClockStep.attempt?, Clock.querySplit, hquery]
    exact .other hadvanced (.single (.ticks t)) rfl
  · have hattempt : (ClockStep.split id : ClockStep ε).attempt? m run.clock run.state = none := by
      cases id <;> first | rfl | contradiction
    by_cases hwall : id = .realtime
    · -- the wall clock is split without a detour over nanoseconds
      subst hwall
      simp only [step, ClockStep.perform, hattempt, Clock.querySplit, if_pos]
      exact .other (.refl m _ _) (.single (.wall run.state)) rfl
    · obtain ⟨c, t, u, hadvanced, hreads, hquery⟩ :=
        run.clock.queryNanos_of_ne_monotonic m hid run.state
      simp only [step, ClockStep.perform, hattempt, Clock.querySplit, if_neg hwall, hquery]
      exact .other hadvanced hreads rfl

/-- Each step makes a change of its kind. -/
theorem step_change (m : Machine σ) (act : ε → σ → σ) (run : ClockRun σ) (step : ClockStep ε) :
    Change m act step run (run.step m act step) := by
  cases step with
  | environment action => exact .environment action run
  | invalidateOffset => exact .invalidated run
  | nanos id => exact change_nanos run id
  | split id => exact change_split run id
  | setTime id time => exact .timeSet rfl
  -- the other steps that ask the clock only move it on and read the machine
  | resolution id =>
    obtain ⟨c, t, hadvanced, hquery⟩ := run.clock.resolution_advanced m id run.state
    simp only [ClockRun.step, ClockStep.perform, ClockStep.attempt?, hquery]
    exact .other hadvanced (.refl t) rfl
  | continuousTime =>
    obtain ⟨c, t, hadvanced, hread⟩ := run.clock.readContinuous_advanced m.ticks m run.state
    simp only [ClockRun.step, ClockStep.perform, ClockStep.attempt?, Clock.continuousTime_eq, hread]
    exact .continuous hadvanced rfl
  | continuousApproxTime =>
    obtain ⟨c, t, hadvanced, hread⟩ := run.clock.readContinuous_advanced m.approxTicks m run.state
    simp only [ClockRun.step, ClockStep.perform, ClockStep.attempt?, Clock.continuousApproxTime_eq,
      hread]
    exact .approx hadvanced rfl
  | timebase =>
    obtain ⟨ratio?, t, hcalibrates, hconverter⟩ := run.clock.converter_calibrates m run.state
    simp only [ClockRun.step, ClockStep.perform, ClockStep.attempt?, Clock.timebase, hconverter]
    exact .other (.of_calibrates hcalibrates) (.refl t) rfl
  | refreshOffset =>
    obtain ⟨c, t, hadvanced, hrefresh⟩ := run.clock.refreshOffset_advanced m run.state
    simp only [ClockRun.step, ClockStep.perform, ClockStep.attempt?, hrefresh]
    exact .other hadvanced (.refl t) rfl

/-- Building a clock makes at most one attempt. -/
theorem start_advanced (m : Machine σ) (settings : Settings) (s : σ) :
    ∃ outcome?, Clock.Advanced m ⟨settings, none, .new settings⟩ s outcome?
        (start m settings s).clock (start m settings s).state ∧
      (start m settings s).attempts = outcome?.toList := by
  simp only [start, Clock.withSettings]
  split
  · obtain ⟨c, t, hadvanced, hrefresh⟩ :=
      Clock.refreshOffset_advanced m ⟨settings, none, .new settings⟩ s
    rw [hrefresh]
    exact ⟨_, hadvanced, rfl⟩
  · exact ⟨none, .refl m _ s, rfl⟩

/-- A property that every change keeps is kept by runs. -/
theorem run_keeps {P : ClockRun σ → Prop} {run : ClockRun σ} {steps : List (ClockStep ε)}
    (hchange : ∀ step ∈ steps, ∀ run run', Change m act step run run' → P run → P run')
    (h : P run) : P (run.run m act steps) := by
  induction steps generalizing run with
  | nil => exact h
  | cons step steps ih =>
    refine ih (fun next hnext => hchange next (List.mem_cons_of_mem _ hnext)) ?_
    exact hchange step List.mem_cons_self _ _ (step_change m act run step) h

/-! ## Agreement -/

/-- Runs with equal clocks, answers and attempts on related machine states. -/
structure Agrees (R : σ → τ → Prop) (x : ClockRun σ) (y : ClockRun τ) : Prop where
  clock : x.clock = y.clock
  state : R x.state y.state
  answers : x.answers = y.answers
  attempts : x.attempts = y.attempts

variable {n : Machine τ} {R : σ → τ → Prop} {act' : ε → τ → τ}

/-- Agreeing machines make the same attempt in a step. -/
theorem attempt_agree (h : m.ReadsAgree n R) (step : ClockStep ε) (c : Clock) {s : σ} {t : τ}
    (hst : R s t) : step.attempt? m c s = step.attempt? n c t := by
  have hread := h.attemptOf c hst
  cases step with
  | nanos id | split id => cases id <;> first | rfl | exact hread
  | continuousTime | continuousApproxTime => exact hread
  | refreshOffset => exact congrArg some (h.refreshOffset c hst).1
  | _ => rfl

/-- Agreeing machines perform a step alike, if the environment does. -/
theorem perform_agree (h : m.CallsAgree n R)
    (hact : ∀ action s t, R s t → R (act action s) (act' action t)) (step : ClockStep ε) (c : Clock)
    {s : σ} {t : τ} (hst : R s t) :
    Agree (Agree R) (step.perform m act c s) (step.perform n act' c t) := by
  cases step with
  | environment action => exact ⟨rfl, rfl, hact action s t hst⟩
  | invalidateOffset => exact ⟨rfl, rfl, hst⟩
  | nanos id =>
    have hagree := h.queryNanos id c hst
    exact ⟨by simp only [ClockStep.perform, hagree.1], hagree.2⟩
  | split id =>
    have hagree := h.querySplit id c hst
    exact ⟨by simp only [ClockStep.perform, hagree.1], hagree.2⟩
  | resolution id =>
    have hagree := h.resolution id c hst
    exact ⟨by simp only [ClockStep.perform, hagree.1], hagree.2⟩
  | setTime id time =>
    have hagree := h.setTime id time hst
    exact ⟨by simp only [ClockStep.perform, hagree.1], rfl, hagree.2⟩
  | continuousTime =>
    have hagree := (h.readContinuous h.ticks c hst).2
    exact ⟨by simp only [ClockStep.perform, Clock.continuousTime_eq, hagree.1], hagree.2⟩
  | continuousApproxTime =>
    have hagree := (h.readContinuous h.approxTicks c hst).2
    exact ⟨by simp only [ClockStep.perform, Clock.continuousApproxTime_eq, hagree.1], hagree.2⟩
  | timebase =>
    have hagree := h.converter c hst
    exact ⟨by simp only [ClockStep.perform, Clock.timebase, hagree.1], hagree.2⟩
  | refreshOffset =>
    have hagree := h.refreshOffset c hst
    exact ⟨by simp only [ClockStep.perform, hagree.1], hagree.2⟩

/-- Agreeing machines run alike. -/
theorem Agrees.run (h : m.CallsAgree n R)
    (hact : ∀ action s t, R s t → R (act action s) (act' action t)) {x : ClockRun σ}
    {y : ClockRun τ} (hxy : Agrees R x y) (steps : List (ClockStep ε)) :
    Agrees R (x.run m act steps) (y.run n act' steps) := by
  induction steps generalizing x y with
  | nil => exact hxy
  | cons step steps ih =>
    obtain ⟨c, s, answers, attempts⟩ := x
    obtain ⟨_, t, _, _⟩ := y
    obtain ⟨rfl, hst, rfl, rfl⟩ := hxy
    have hattempt := attempt_agree h.toReadsAgree step c hst
    have hperform := perform_agree h hact step c hst
    refine ih ⟨hperform.2.1, hperform.2.2, ?_, ?_⟩
    · simp only [ClockRun.step, hperform.1]
    · simp only [ClockRun.step, hattempt]

/-- Agreeing machines start alike. -/
theorem Agrees.start (h : m.ReadsAgree n R) (settings : Settings) {s : σ} {t : τ} (hst : R s t) :
    Agrees R (start m settings s) (start n settings t) where
  clock := (h.withSettings settings hst).1
  state := (h.withSettings settings hst).2
  answers := rfl
  attempts := by
    simp only [ClockRun.start, (h.refreshOffset _ hst).1]

/-- Setting a clock only adds to the record of the machine. -/
theorem setTime_suffix {id : ClockId} {time : Timespec} {answer : Except ClockError Unit}
    {s t : σ × List (MachineRecord σ)}
    (h : Clock.setTime m.recorded id time s = (answer, t)) : s.2 <:+ t.2 := by
  rw [Clock.setTime] at h
  split at h
  · split at h
    · cases h
      exact List.suffix_cons _ _
    · cases h
      exact List.suffix_rfl
  · cases h
    exact List.suffix_rfl

/-- Changes only add to the record of the machine. -/
theorem Change.suffix {act : ε → σ → σ} {step : ClockStep ε}
    {run run' : ClockRun (σ × List (MachineRecord σ))}
    (hchange : Change m.recorded (Machine.besideRecord act) step run run') :
    run.state.2 <:+ run'.state.2 := by
  cases hchange with
  | environment action => exact List.suffix_rfl
  | invalidated => exact List.suffix_rfl
  | timeSet hset => exact setTime_suffix hset
  | other hadvanced hreads => exact (hadvanced.reads.trans hreads).suffix
  | monotonic hadvanced hticks => exact (hadvanced.reads.trans (.of_ticks hticks)).suffix
  | continuous hadvanced hticks => exact (hadvanced.reads.trans (.of_ticks hticks)).suffix
  | approx hadvanced hticks => exact (hadvanced.reads.trans (.of_approxTicks hticks)).suffix

/-- A property that every change keeps, as long as the record allows it, is kept by runs with such a
record. What is asked of the record has to hold of its older part too. -/
theorem run_keeps_recorded {P : List (MachineRecord σ) → Prop}
    {Q : ClockRun (σ × List (MachineRecord σ)) → Prop} {act : ε → σ → σ} {settings : Settings}
    {s : σ} {steps : List (ClockStep ε)}
    (hsuffix : ∀ older records, older <:+ records → P records → P older)
    (hchange : ∀ step ∈ steps, ∀ run run',
      Change m.recorded (Machine.besideRecord act) step run run' → P run'.state.2 → Q run → Q run')
    (hstart : P (start m.recorded settings (s, [])).state.2 →
      Q (start m.recorded settings (s, [])))
    (hrecord : P (record m act settings s steps)) :
    Q ((start m.recorded settings (s, [])).run m.recorded (Machine.besideRecord act) steps) := by
  refine run_keeps (P := fun run => P run.state.2 → Q run) ?_ hstart hrecord
  intro step hstep run run' hstepped ih hallowed
  exact hchange step hstep run run' hstepped hallowed (ih (hsuffix _ _ hstepped.suffix hallowed))

/-- Keeping a record of the machine changes nothing else. -/
theorem run_recorded (m : Machine σ) (act : ε → σ → σ) (settings : Settings) (s : σ)
    (steps : List (ClockStep ε)) :
    Agrees (fun s t => s.1 = t)
      ((ClockRun.start m.recorded settings (s, [])).run m.recorded (Machine.besideRecord act) steps)
      ((ClockRun.start m settings s).run m act steps) := by
  exact Agrees.run m.recorded_agrees (Machine.besideRecord_fst act)
    (Agrees.start m.recorded_agrees.toReadsAgree settings rfl) steps

end ClockRun

end SoftClock
