import SoftClock.Proofs.Continuous.Run
import SoftClock.Proofs.Offset.Journal

/-!
# The Journal of a Run

The estimates that complete in a run of a continuous count, those that its reads make and ignore
included. They are the journal of what the estimator knows at the end of the run, whatever the
machine, the converters and the settings do in between.

* `ContinuousRun.completions` collects them, the newest first;
* `ContinuousRun.run_keepsJournal`: what refreshes and invalidations keep of the journal and the
  estimator holds in every state of a run, by induction on its steps;
* `ContinuousRun.run_recounts` is the main result, the case of what the estimator knows;
* `ContinuousRun.run_outcomes` compares them with the history of the run.
-/

namespace SoftClock

variable {σ ε : Type}

/-- Every refresh on a machine adds what it completes to the journal, and keeps the relation of the
journal and the estimator. -/
def RefreshKeeps (m : Machine σ) (P : List Completion → Estimator → Prop) : Prop :=
  ∀ (journal : List Completion) (e : Estimator), P journal e →
    ∀ (converter : Converter) (settings : Settings) (s : σ),
      P ((e.completion? m converter settings s).toList ++ journal)
        (e.refresh m converter settings s).2.1

namespace Continuous

/-- The estimate that a continuous read completes first, if it does. -/
def completion? (m : Machine σ) (converter : Converter) (settings : Settings) (c : Continuous)
    (s : σ) : Option Completion :=
  match c.mode with
  | .rawFallback => none
  | .auto | .sleepAware =>
    match c.needsRefresh m s with
    | (true, s) => c.estimator.completion? m converter settings s
    | (false, _) => none

/-- What a read completes has the outcome of its attempt. -/
theorem completion?_outcome (m : Machine σ) (converter : Converter) (settings : Settings)
    (c : Continuous) (s : σ) :
    (c.completion? m converter settings s).map Completion.outcome =
      (c.attempt? m converter settings s).bind Except.toOption := by
  rw [completion?, attempt?]
  cases c.mode with
  | rawFallback => rfl
  | auto | sleepAware =>
    rcases c.needsRefresh m s with ⟨needed, t⟩
    cases needed with
    | false => rfl
    | true => exact c.estimator.completion?_outcome m converter settings t

/-- What refreshes keep of a journal and an estimator is kept by reads. -/
theorem readWith_keepsJournal {m : Machine σ} {P : List Completion → Estimator → Prop}
    (hrefresh : RefreshKeeps m P) {journal : List Completion} {c : Continuous}
    (h : P journal c.estimator) (read : σ → UInt64 × σ) (converter : Converter)
    (settings : Settings) (s : σ) :
    P ((c.completion? m converter settings s).toList ++ journal)
      (c.readWith read m converter settings s).2.1.estimator := by
  rw [completion?, readWith]
  cases c.mode with
  | rawFallback => exact h
  | auto | sleepAware =>
    rw [prepare]
    rcases c.needsRefresh m s with ⟨needed, t⟩
    cases needed with
    | false => exact h
    | true => exact hrefresh _ _ h converter settings t

end Continuous

/-- The estimate that a step of a run completes, if it does. -/
def ContinuousStep.completion? (m : Machine σ) (run : ContinuousRun σ) :
    ContinuousStep ε → Option Completion
  | .environment _ | .invalidate => none
  | .refresh converter settings =>
    run.count.estimator.completion? m converter settings run.state
  | .ticks converter settings | .approxTicks converter settings =>
    run.count.completion? m converter settings run.state

/-- The outcome of an event, if it is a completed attempt. -/
def EstimatorEvent.outcome? : EstimatorEvent → Option RefreshOutcome
  | .invalidated => none
  | .refreshed answer => answer.toOption

namespace ContinuousRun

variable (m : Machine σ) (act : ε → σ → σ)

/-- The estimates that complete in a run, the newest first. -/
def completions : ContinuousRun σ → List (ContinuousStep ε) → List Completion
  | _, [] => []
  | run, step :: steps =>
    completions (run.step m act step) steps ++ (step.completion? m run).toList

/-- More steps only add to what was completed. -/
theorem completions_append (run : ContinuousRun σ) (steps more : List (ContinuousStep ε)) :
    run.completions m act (steps ++ more) =
      (run.run m act steps).completions m act more ++ run.completions m act steps := by
  induction steps generalizing run with
  | nil => exact (List.append_nil _).symm
  | cons step steps ih =>
    simp only [List.cons_append, completions]
    rw [ih, List.append_assoc]
    rfl

section Keeps

variable {m act} {P : List Completion → Estimator → Prop} (hrefresh : RefreshKeeps m P)
  (hinvalidate : ∀ journal e, P journal e → P journal e.invalidate)

include hrefresh hinvalidate

/-- A step adds what it completes to the journal. -/
theorem step_keepsJournal {run : ContinuousRun σ} {journal : List Completion}
    (h : P journal run.count.estimator) (step : ContinuousStep ε) :
    P ((step.completion? m run).toList ++ journal) (run.step m act step).count.estimator := by
  cases step with
  | environment action => exact h
  | invalidate => exact hinvalidate _ _ h
  | refresh converter settings => exact hrefresh _ _ h converter settings run.state
  | ticks converter settings =>
    exact Continuous.readWith_keepsJournal hrefresh h _ converter settings _
  | approxTicks converter settings =>
    exact Continuous.readWith_keepsJournal hrefresh h _ converter settings _

/-- A run adds what it completes to the journal that it starts from. -/
theorem steps_keepJournal {run : ContinuousRun σ} {journal : List Completion}
    (h : P journal run.count.estimator) (steps : List (ContinuousStep ε)) :
    P (run.completions m act steps ++ journal) (run.run m act steps).count.estimator := by
  induction steps generalizing run journal with
  | nil => exact h
  | cons step steps ih =>
    rw [completions, List.append_assoc]
    exact ih (step_keepsJournal hrefresh hinvalidate h step)

/-- In a run of a new count the journal is what completed in the run. -/
theorem run_keepsJournal (hnew : P [] .new) (settings : Settings) (s : σ)
    (steps : List (ContinuousStep ε)) :
    P ((start settings s).completions m act steps)
      ((start settings s).run m act steps).count.estimator := by
  have hstart : P [] (start settings s : ContinuousRun σ).count.estimator := hnew
  rw [← List.append_nil (completions m act _ _)]
  exact steps_keepJournal hrefresh hinvalidate hstart steps

end Keeps

variable {m act}

/-- What the estimator knows after a run is what the estimates that completed in it led to. -/
theorem run_recounts (m : Machine σ) (act : ε → σ → σ) (settings : Settings) (s : σ)
    (steps : List (ContinuousStep ε)) :
    ((start settings s).run m act steps).count.estimator.Recounts
      ((start settings s).completions m act steps) := by
  refine run_keepsJournal (P := fun journal e => e.Recounts journal) ?_ ?_ ?_ settings s steps
  · intro journal e h converter settings s
    exact Estimator.refresh_recounts h s
  · intro journal e h
    exact ⟨h.estimate, h.commits⟩
  · exact ⟨.nil, rfl⟩

/-- A step that completes an estimate notes its outcome in the history. -/
theorem step_outcomes (run : ContinuousRun σ) (step : ContinuousStep ε) :
    (run.step m act step).history.filterMap EstimatorEvent.outcome? =
      ((step.completion? m run).map Completion.outcome).toList ++
        run.history.filterMap EstimatorEvent.outcome? := by
  -- a read by either counter notes what its attempt came to
  have hread (converter : Converter) (settings : Settings) :
      (((run.count.attempt? m converter settings run.state).map EstimatorEvent.refreshed).toList ++
        run.history).filterMap EstimatorEvent.outcome? =
      ((run.count.completion? m converter settings run.state).map Completion.outcome).toList ++
        run.history.filterMap EstimatorEvent.outcome? := by
    rw [Continuous.completion?_outcome, List.filterMap_append]
    congr 1
    rcases run.count.attempt? m converter settings run.state with _ | answer
    · rfl
    · cases answer <;> rfl
  cases step with
  | environment action => rfl
  | invalidate => rfl
  | refresh converter settings =>
    rw [ContinuousStep.completion?, Estimator.completion?_outcome]
    rcases hrefresh : run.count.estimator.refresh m converter settings run.state with ⟨answer, e, t⟩
    simp only [ContinuousRun.step, Continuous.refresh, hrefresh]
    cases answer <;> rfl
  | ticks converter settings => exact hread converter settings
  | approxTicks converter settings => exact hread converter settings

/-- The completed attempts of the history are the estimates that completed, in their order. -/
theorem outcomes_completions (run : ContinuousRun σ) (steps : List (ContinuousStep ε)) :
    (run.run m act steps).history.filterMap EstimatorEvent.outcome? =
      (run.completions m act steps).map Completion.outcome ++
        run.history.filterMap EstimatorEvent.outcome? := by
  induction steps generalizing run with
  | nil => rfl
  | cons step steps ih =>
    rw [completions, List.map_append, List.append_assoc]
    refine (ih _).trans (congrArg _ ?_)
    rw [step_outcomes]
    cases step.completion? m run <;> rfl

/-- In a run of a new count no completed attempt is missing, and none is there twice. -/
theorem run_outcomes (m : Machine σ) (act : ε → σ → σ) (settings : Settings) (s : σ)
    (steps : List (ContinuousStep ε)) :
    ((start settings s).completions m act steps).map Completion.outcome =
      ((start settings s).run m act steps).history.filterMap EstimatorEvent.outcome? := by
  rw [outcomes_completions]
  exact (List.append_nil _).symm

end ContinuousRun

end SoftClock
