import SoftClock.Proofs.Continuous.Reading
import SoftClock.Proofs.Machine.Recorded
import SoftClock.Proofs.Timebase.Conversion

/-!
# Runs of a Continuous Count

A run applies steps one after the other to a continuous count and the machine under it. Between two
operations of the count the environment may do anything to the machine: a step of it is an action of
any type, and `act` says what the action does to the state. Converter and settings come with each
operation, so they may change from one to the next.

A run keeps the history of its estimator: every attempt with its outcome, those that reads make and
ignore included, and every invalidation.

* `ContinuousRun.step_change` says what one step can do, which later inductions split on;
* `ContinuousRun.run_recorded` says that keeping a record of the machine changes nothing.
-/

namespace SoftClock

variable {σ τ ε : Type}

/-- A step of a run with actions of the environment in `ε`. -/
inductive ContinuousStep (ε : Type) where
  | environment (action : ε)
  | refresh (converter : Converter) (settings : Settings)
  | ticks (converter : Converter) (settings : Settings)
  | approxTicks (converter : Converter) (settings : Settings)
  | invalidate

/-- The converter that a step uses, if it uses one. -/
def ContinuousStep.converter? : ContinuousStep ε → Option Converter
  | .environment _ | .invalidate => none
  | .refresh converter _ | .ticks converter _ | .approxTicks converter _ => some converter

/-- What happened to an estimator. -/
inductive EstimatorEvent where
  /-- It was invalidated. -/
  | invalidated
  /-- An estimate was attempted, with this outcome. -/
  | refreshed (outcome : Except ClockError RefreshOutcome)

/-- A continuous count, the machine under it, and what happened so far. -/
structure ContinuousRun (σ : Type) where
  count : Continuous
  state : σ
  /-- What happened to the estimator, the newest first. -/
  history : List EstimatorEvent

namespace ContinuousRun

/-- The run of a new count before its first step. -/
def start (settings : Settings) (s : σ) : ContinuousRun σ := ⟨.new settings, s, []⟩

variable (m : Machine σ) (act : ε → σ → σ)

/-- A run after one more step. -/
def step (run : ContinuousRun σ) : ContinuousStep ε → ContinuousRun σ
  | .environment action => { run with state := act action run.state }
  | .refresh converter settings =>
    match run.count.refresh m converter settings run.state with
    | (outcome, count, s) => ⟨count, s, .refreshed outcome :: run.history⟩
  | .ticks converter settings =>
    let attempt? := run.count.attempt? m converter settings run.state
    match run.count.ticks m converter settings run.state with
    | (_, count, s) => ⟨count, s, (attempt?.map .refreshed).toList ++ run.history⟩
  | .approxTicks converter settings =>
    let attempt? := run.count.attempt? m converter settings run.state
    match run.count.approxTicks m converter settings run.state with
    | (_, count, s) => ⟨count, s, (attempt?.map .refreshed).toList ++ run.history⟩
  | .invalidate =>
    { run with count := run.count.invalidate, history := .invalidated :: run.history }

/-- A run after more steps. -/
def run (run : ContinuousRun σ) (steps : List (ContinuousStep ε)) : ContinuousRun σ :=
  steps.foldl (step m act) run

/-- The last step of a run. -/
theorem run_concat (run : ContinuousRun σ) (before : List (ContinuousStep ε))
    (last : ContinuousStep ε) :
    run.run m act (before ++ [last]) = (run.run m act before).step m act last := by
  unfold ContinuousRun.run
  rw [List.foldl_append, List.foldl_cons, List.foldl_nil]

/-- The calls that a run makes to its machine, the newest first. -/
def record (settings : Settings) (s : σ) (steps : List (ContinuousStep ε)) :
    List (MachineRecord σ) :=
  ((start settings (s, [])).run m.recorded (Machine.besideRecord act) steps).state.2

/-! ## What a step can do -/

/-- The change of a run by a step: the environment acts, the machine is read, the estimator is
invalidated, or it is refreshed among other reads. -/
inductive Change : ContinuousStep ε → ContinuousRun σ → ContinuousRun σ → Prop
  | environment (action : ε) (run : ContinuousRun σ) :
    Change (.environment action) run { run with state := act action run.state }
  | invalidated (run : ContinuousRun σ) :
    Change .invalidate run
      { run with count := run.count.invalidate, history := .invalidated :: run.history }
  | idle {step : ContinuousStep ε} {run : ContinuousRun σ} {t : σ} :
    m.Reads run.state t → Change step run { run with state := t }
  | refreshed {step : ContinuousStep ε} {run : ContinuousRun σ} {s t u : σ} {converter : Converter}
    {settings : Settings} {outcome : Except ClockError RefreshOutcome} {estimator : Estimator} :
    step.converter? = some converter → m.Reads run.state s →
    run.count.estimator.refresh m converter settings s = (outcome, estimator, t) → m.Reads t u →
    Change step run
      ⟨{ run.count with estimator }, u, .refreshed outcome :: run.history⟩

variable {m act}

/-- A prepared count followed by more reads is a change. -/
theorem Change.of_prepared {step : ContinuousStep ε} {run : ContinuousRun σ} {converter : Converter}
    {settings : Settings} {outcome? : Option (Except ClockError RefreshOutcome)} {c : Continuous}
    {t u : σ} (hconverter : step.converter? = some converter)
    (h : Continuous.Prepared m converter settings run.count run.state outcome? c t)
    (hreads : m.Reads t u) :
    Change m act step run ⟨c, u, (outcome?.map .refreshed).toList ++ run.history⟩ := by
  cases h with
  | idle hbefore => exact .idle (hbefore.trans hreads)
  | attempted hbefore hrefresh => exact .refreshed hconverter hbefore hrefresh hreads

/-- Each step makes a change of its kind. -/
theorem step_change (m : Machine σ) (act : ε → σ → σ) (run : ContinuousRun σ)
    (step : ContinuousStep ε) : Change m act step run (run.step m act step) := by
  cases step with
  | environment action => exact .environment action run
  | invalidate => exact .invalidated run
  | refresh converter settings =>
    rcases h : run.count.refresh m converter settings run.state with ⟨outcome, c, t⟩
    rw [ContinuousRun.step, h]
    exact .of_prepared rfl (Continuous.refresh_prepared h) (.refl t)
  | ticks converter settings =>
    -- a read prepares the count, and then reads a counter once
    obtain ⟨c, t, hprepared, hread⟩ :=
      Continuous.readWith_prepared m.ticks m converter settings run.count run.state
    simp only [ContinuousRun.step, Continuous.ticks, hread]
    exact .of_prepared rfl hprepared (.single (.ticks t))
  | approxTicks converter settings =>
    obtain ⟨c, t, hprepared, hread⟩ :=
      Continuous.readWith_prepared m.approxTicks m converter settings run.count run.state
    simp only [ContinuousRun.step, Continuous.approxTicks, hread]
    exact .of_prepared rfl hprepared (.single (.approxTicks t))

/-- A property that every change keeps is kept by runs. -/
theorem run_keeps {P : ContinuousRun σ → Prop} {run : ContinuousRun σ}
    {steps : List (ContinuousStep ε)}
    (hchange : ∀ step ∈ steps, ∀ run run', Change m act step run run' → P run → P run')
    (h : P run) : P (run.run m act steps) := by
  induction steps generalizing run with
  | nil => exact h
  | cons step steps ih =>
    refine ih (fun next hnext => hchange next (List.mem_cons_of_mem _ hnext)) ?_
    exact hchange step List.mem_cons_self _ _ (step_change m act run step) h

/-! ## Agreement -/

/-- Runs with equal counts and histories on related machine states. -/
structure Agrees (R : σ → τ → Prop) (x : ContinuousRun σ) (y : ContinuousRun τ) : Prop where
  count : x.count = y.count
  history : x.history = y.history
  state : R x.state y.state

variable {n : Machine τ} {R : σ → τ → Prop} {act' : ε → τ → τ}

/-- Agreeing machines take agreeing runs to agreeing runs, if the environment does. -/
theorem Agrees.step (h : m.ReadsAgree n R)
    (hact : ∀ action s t, R s t → R (act action s) (act' action t))
    {x : ContinuousRun σ} {y : ContinuousRun τ} (hxy : Agrees R x y) (step : ContinuousStep ε) :
    Agrees R (x.step m act step) (y.step n act' step) := by
  obtain ⟨count, s, history⟩ := x
  obtain ⟨_, t, _⟩ := y
  obtain ⟨rfl, rfl, hst⟩ := hxy
  -- the counts and their histories are the same, so only the machines have to be followed
  cases step with
  | environment action => exact ⟨rfl, rfl, hact action _ _ hst⟩
  | invalidate => exact ⟨rfl, rfl, hst⟩
  | refresh converter settings =>
    obtain ⟨outcome, ⟨c, s'⟩, ⟨_, t'⟩, hm, hn, rfl, h'⟩ :=
      (h.refreshCount converter settings count hst).cases
    simp only [ContinuousRun.step, hm, hn]
    exact ⟨rfl, rfl, h'⟩
  | ticks converter settings =>
    have hattempt := h.attempt? converter settings count hst
    obtain ⟨ticks, ⟨c, s'⟩, ⟨_, t'⟩, hm, hn, rfl, h'⟩ :=
      (h.readWith h.ticks converter settings count hst).cases
    simp only [ContinuousRun.step, Continuous.ticks, hattempt, hm, hn]
    exact ⟨rfl, rfl, h'⟩
  | approxTicks converter settings =>
    have hattempt := h.attempt? converter settings count hst
    obtain ⟨ticks, ⟨c, s'⟩, ⟨_, t'⟩, hm, hn, rfl, h'⟩ :=
      (h.readWith h.approxTicks converter settings count hst).cases
    simp only [ContinuousRun.step, Continuous.approxTicks, hattempt, hm, hn]
    exact ⟨rfl, rfl, h'⟩

/-- Agreeing machines run alike. -/
theorem Agrees.run (h : m.ReadsAgree n R)
    (hact : ∀ action s t, R s t → R (act action s) (act' action t))
    {x : ContinuousRun σ} {y : ContinuousRun τ} (hxy : Agrees R x y)
    (steps : List (ContinuousStep ε)) : Agrees R (x.run m act steps) (y.run n act' steps) := by
  induction steps generalizing x y with
  | nil => exact hxy
  | cons step steps ih => exact ih (hxy.step h hact step)

/-- Changes only add to the record of the machine. -/
theorem Change.suffix {step : ContinuousStep ε}
    {run run' : ContinuousRun (σ × List (MachineRecord σ))}
    (hchange : Change m.recorded (Machine.besideRecord act) step run run') :
    run.state.2 <:+ run'.state.2 := by
  cases hchange with
  | environment action => exact List.suffix_rfl
  | invalidated => exact List.suffix_rfl
  | idle hreads => exact hreads.suffix
  | refreshed hconverter hbefore hrefresh hafter =>
    exact ((hbefore.trans (Estimator.refresh_reads hrefresh)).trans hafter).suffix

/-- A property that every change keeps, as long as the record allows it, is kept by runs with such a
record. What is asked of the record has to hold of its older part too. -/
theorem run_keeps_recorded {P : List (MachineRecord σ) → Prop}
    {Q : ContinuousRun (σ × List (MachineRecord σ)) → Prop} {act : ε → σ → σ} {settings : Settings}
    {s : σ} {steps : List (ContinuousStep ε)}
    (hsuffix : ∀ older records, older <:+ records → P records → P older)
    (hchange : ∀ step ∈ steps, ∀ run run',
      Change m.recorded (Machine.besideRecord act) step run run' → P run'.state.2 → Q run → Q run')
    (hstart : Q (start settings (s, []))) (hrecord : P (record m act settings s steps)) :
    Q ((start settings (s, [])).run m.recorded (Machine.besideRecord act) steps) := by
  refine run_keeps (P := fun run => P run.state.2 → Q run) ?_ (fun _ => hstart) hrecord
  intro step hstep run run' hstepped ih hallowed
  exact hchange step hstep run run' hstepped hallowed (ih (hsuffix _ _ hstepped.suffix hallowed))

/-- Keeping a record of the machine changes nothing else. -/
theorem run_recorded (m : Machine σ) (act : ε → σ → σ) (settings : Settings) (s : σ)
    (steps : List (ContinuousStep ε)) :
    Agrees (fun s t => s.1 = t)
      ((start settings (s, [])).run m.recorded (Machine.besideRecord act) steps)
      ((start settings s).run m act steps) := by
  exact Agrees.run m.recorded_agrees.toReadsAgree (Machine.besideRecord_fst act) ⟨rfl, rfl, rfl⟩
    steps

end ContinuousRun

end SoftClock
