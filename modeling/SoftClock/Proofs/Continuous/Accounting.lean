import SoftClock.Machine.Simulated
import SoftClock.Proofs.Continuous.Run
import SoftClock.Proofs.Offset.Failure
import SoftClock.Proofs.Offset.PairLog

/-!
# Every Attempt is Accounted For

The attempts of a run to estimate the sleep offset, those that its reads make and ignore included,
against the counters of the estimator.

* An `Attempt` has settings, an outcome, and the calls that it made. It ends in one of four ways
  (`AttemptEnding`), and each of them has a counter.
* `Counters.Accounts` is the invariant: the counters are those of a list of attempts. A refresh
  adds its own attempt to the list (`Estimator.refresh_accounts`), so a run does for all of its
  attempts (`ContinuousRun.run_accounts`).
* `ContinuousRun.run_accountedFor` states what follows while the counters have not wrapped.
-/

namespace SoftClock

variable {σ ε : Type}

/-! ## Attempts -/

/-- How an attempt to estimate the sleep offset ended. -/
inductive AttemptEnding where
  | committed
  | rejected
  /-- A bounded loop ran out. -/
  | exhausted
  /-- A read failed, or there was no timebase. -/
  | readFailed
  deriving DecidableEq

/-- An attempt to estimate the sleep offset. -/
structure Attempt (σ : Type) where
  settings : Settings
  outcome : Except ClockError RefreshOutcome
  /-- The calls that it made to the machine, the newest first. -/
  calls : List (MachineRecord σ)

namespace Attempt

/-- How it ended. -/
def ending (attempt : Attempt σ) : AttemptEnding :=
  match attempt.outcome with
  | .ok (.committed _) => .committed
  | .ok .unchanged => .rejected
  | .error (.samplingExhausted _) => .exhausted
  | .error _ => .readFailed

/-- The pairs that it completed. -/
def pairs (attempt : Attempt σ) : List PairedSample := completedPairs attempt.calls

/-- The restarts that its settings allow, and the one that makes it give up. -/
def restartLimit (attempt : Attempt σ) : ℕ := attempt.settings.maxBootRestarts.toNat + 1

/-- Attempts with an ending. -/
def endingIn (ending : AttemptEnding) (attempts : List (Attempt σ)) : ℕ :=
  attempts.countP fun attempt => attempt.ending = ending

/-- Every attempt has one of the four endings, and only one. -/
theorem length_eq_endings (attempts : List (Attempt σ)) :
    attempts.length = endingIn .committed attempts + endingIn .rejected attempts +
      endingIn .exhausted attempts + endingIn .readFailed attempts := by
  induction attempts with
  | nil => rfl
  | cons attempt attempts ih =>
    simp only [endingIn, List.countP_cons, List.length_cons] at ih ⊢
    cases attempt.ending <;> simp <;> omega

theorem endingIn_le_length (ending : AttemptEnding) (attempts : List (Attempt σ)) :
    endingIn ending attempts ≤ attempts.length :=
  List.countP_le_length

end Attempt

namespace Counters

/-- The counter of an ending. -/
def ended (c : Counters) : AttemptEnding → UInt64
  | .committed => c.commits
  | .rejected => c.rejections
  | .exhausted => c.exhausted
  | .readFailed => c.readFailures

/-- Count an ending. -/
def recordEnding (c : Counters) : AttemptEnding → Counters
  | .committed => c.recordCommit
  | .rejected => c.recordRejection
  | .exhausted => c.recordExhausted
  | .readFailed => c.recordReadFailure

variable {c c' : Counters}

/-- An ending is counted in its own counter, and in no other one. -/
theorem ended_recordEnding (c : Counters) (ending other : AttemptEnding) :
    (c.recordEnding ending).ended other = if ending = other then c.ended other + 1
      else c.ended other := by
  cases ending <;> cases other <;> rfl

@[simp]
theorem recordEnding_attempts (c : Counters) (ending : AttemptEnding) :
    (c.recordEnding ending).attempts = c.attempts := by
  cases ending <;> rfl

@[simp]
theorem recordEnding_bootRestarts (c : Counters) (ending : AttemptEnding) :
    (c.recordEnding ending).bootRestarts = c.bootRestarts := by
  cases ending <;> rfl

@[simp]
theorem recordEnding_bestBracket (c : Counters) (ending : AttemptEnding) :
    (c.recordEnding ending).bestBracket = c.bestBracket := by
  cases ending <;> rfl

/-- Sampling counts no ending. -/
theorem Sampled.ended (h : Sampled c c') (ending : AttemptEnding) :
    c'.ended ending = c.ended ending := by
  cases ending with
  | committed => exact h.commits
  | rejected => exact h.rejections
  | exhausted => exact h.exhausted
  | readFailed => exact h.readFailures

/-- Counters are those of attempts, the newest first. They are machine words, so the counts wrap. -/
structure Accounts (attempts : List (Attempt σ)) (c : Counters) : Prop where
  attempts_eq : c.attempts = .ofNat attempts.length
  ended_eq : ∀ ending, c.ended ending = .ofNat (Attempt.endingIn ending attempts)
  bootRestarts_le : c.bootRestarts.toNat ≤ (attempts.map Attempt.restartLimit).sum
  bestBracket : IsTightest c.bestBracket (attempts.flatMap Attempt.pairs)

/-- One more attempt is accounted for once its sampling and its ending are counted. -/
theorem Accounts.cons {attempts : List (Attempt σ)} (h : Accounts attempts c) {restarts : ℕ}
    (hgathered : c.recordAttempt.Gathered restarts c') (attempt : Attempt σ)
    (hrestarts : restarts ≤ attempt.restartLimit)
    (htightest : IsTightest c'.bestBracket (attempt.pairs ++ attempts.flatMap Attempt.pairs)) :
    Accounts (attempt :: attempts) (c'.recordEnding attempt.ending) where
  attempts_eq := by
    rw [recordEnding_attempts, hgathered.attempts]
    exact Estimator.ofNat_succ_of_eq h.attempts_eq
  ended_eq ending := by
    have hbefore : c'.ended ending = .ofNat (Attempt.endingIn ending attempts) :=
      (hgathered.toSampled.ended ending).trans (h.ended_eq ending)
    rw [ended_recordEnding, Attempt.endingIn, List.countP_cons]
    split
    · rename_i hending
      rw [if_pos (by simpa using hending)]
      exact Estimator.ofNat_succ_of_eq hbefore
    · rename_i hending
      rw [if_neg (by simpa using hending)]
      exact hbefore
  bootRestarts_le := by
    -- a word that wrapped is all the smaller
    have hbefore := h.bootRestarts_le
    rw [recordEnding_bootRestarts, hgathered.bootRestarts, List.map_cons, List.sum_cons,
      UInt64.toNat_add, UInt64.toNat_ofNat']
    change (c.bootRestarts.toNat + restarts % 2 ^ 64) % 2 ^ 64 ≤ _
    omega
  bestBracket := by
    rw [recordEnding_bestBracket, List.flatMap_cons]
    exact htightest

end Counters

namespace Estimator

/-- The attempt that a refresh makes. -/
def attempt (m : Machine σ) (converter : Converter) (settings : Settings) (e : Estimator) (s : σ) :
    Attempt σ :=
  ⟨settings, (e.refresh m converter settings s).1, e.refreshRecord m converter settings s⟩

/-- A refresh accounts for the attempt that it makes. -/
theorem refresh_accounts {attempts : List (Attempt σ)} {e : Estimator}
    (h : e.counters.Accounts attempts) (m : Machine σ) (converter : Converter) (settings : Settings)
    (s : σ) :
    (e.refresh m converter settings s).2.1.counters.Accounts
      (e.attempt m converter settings s :: attempts) := by
  cases converter with
  | degraded =>
    -- nothing is sampled
    have hgathered : e.counters.recordAttempt.Gathered 0 e.counters.recordAttempt := .refl _
    exact h.cons hgathered (e.attempt m .degraded settings s) (Nat.zero_le _) h.bestBracket
  | calibrated ratio =>
    obtain ⟨answer, ⟨counters, t⟩, ⟨_, _⟩, hrecorded, hplain, rfl, rfl⟩ :=
      (m.recorded_agrees.toReadsAgree.takeSample settings e.counters.recordAttempt
        (s := (s, [])) rfl).cases
    obtain ⟨restarts, hle, hgathered⟩ := takeSample_gathered hrecorded
    have htightest := takeSample_tightest hrecorded h.bestBracket
    have hcalls : (e.attempt m (.calibrated ratio) settings s).pairs = completedPairs t.2 := by
      cases answer <;> simp [attempt, Attempt.pairs, refreshRecord, refresh, hrecorded]
    rw [← hcalls] at htightest
    have hattempt := h.cons hgathered (e.attempt m (.calibrated ratio) settings s) hle htightest
    cases answer with
    | error error =>
      -- the error decides which of the two failures it is
      simp only [attempt, refresh, hplain] at hattempt ⊢
      cases error <;> exact hattempt
    | ok sample =>
      simp only [attempt, refresh, hplain] at hattempt ⊢
      cases houtcome : (e.estimate.absorb ratio settings sample).1 <;> rw [houtcome] at hattempt <;>
        exact hattempt

end Estimator

/-! ## Runs -/

namespace Continuous

/-- The attempt that a continuous read makes first, if it makes one. -/
def attempted? (m : Machine σ) (converter : Converter) (settings : Settings) (c : Continuous)
    (s : σ) : Option (Attempt σ) :=
  match c.mode with
  | .rawFallback => none
  | .auto | .sleepAware =>
    match c.needsRefresh m s with
    | (true, s) => some (c.estimator.attempt m converter settings s)
    | (false, _) => none

/-- The outcome of the attempt that a read makes. -/
theorem attempted?_outcome (m : Machine σ) (converter : Converter) (settings : Settings)
    (c : Continuous) (s : σ) :
    (c.attempted? m converter settings s).map Attempt.outcome =
      c.attempt? m converter settings s := by
  rw [attempted?, attempt?]
  cases c.mode with
  | rawFallback => rfl
  | auto | sleepAware =>
    rcases c.needsRefresh m s with ⟨needed, t⟩
    cases needed <;> rfl

/-- A read accounts for the attempt that it makes. -/
theorem readWith_accounts {attempts : List (Attempt σ)} {c : Continuous}
    (h : c.estimator.counters.Accounts attempts) (read : σ → UInt64 × σ) (m : Machine σ)
    (converter : Converter) (settings : Settings) (s : σ) :
    (c.readWith read m converter settings s).2.1.estimator.counters.Accounts
      ((c.attempted? m converter settings s).toList ++ attempts) := by
  rw [attempted?, readWith]
  cases c.mode with
  | rawFallback => exact h
  | auto | sleepAware =>
    rw [prepare]
    rcases c.needsRefresh m s with ⟨needed, t⟩
    cases needed with
    | false => exact h
    | true => exact Estimator.refresh_accounts h m converter settings t

end Continuous

/-- The attempt that a step of a run makes, if it makes one. -/
def ContinuousStep.attempted? (m : Machine σ) (run : ContinuousRun σ) :
    ContinuousStep ε → Option (Attempt σ)
  | .environment _ | .invalidate => none
  | .refresh converter settings =>
    some (run.count.estimator.attempt m converter settings run.state)
  | .ticks converter settings | .approxTicks converter settings =>
    run.count.attempted? m converter settings run.state

/-- The outcome of an event, if it is an attempt. -/
def EstimatorEvent.attempt? : EstimatorEvent → Option (Except ClockError RefreshOutcome)
  | .invalidated => none
  | .refreshed outcome => some outcome

/-- The counters of an estimator account for every attempt, once each. -/
structure Counters.AccountFor (attempts : List (Attempt σ)) (c : Counters) : Prop where
  /-- Every attempt ended in one of four ways. -/
  total : c.attempts.toNat =
    c.commits.toNat + c.rejections.toNat + c.exhausted.toNat + c.readFailures.toNat
  attempts_eq : c.attempts.toNat = attempts.length
  commits_eq : c.commits.toNat = Attempt.endingIn .committed attempts
  rejections_eq : c.rejections.toNat = Attempt.endingIn .rejected attempts
  exhausted_eq : c.exhausted.toNat = Attempt.endingIn .exhausted attempts
  readFailures_eq : c.readFailures.toNat = Attempt.endingIn .readFailed attempts
  bootRestarts_le : c.bootRestarts.toNat ≤ (attempts.map Attempt.restartLimit).sum
  /-- The pairs of abandoned and of restarted attempts are among those of the calls. -/
  bestBracket : IsTightest c.bestBracket (attempts.flatMap Attempt.pairs)

/-- As many attempts as a word can count are accounted for. -/
theorem Counters.Accounts.accountFor {attempts : List (Attempt σ)} {c : Counters}
    (h : c.Accounts attempts) (hfits : attempts.length < UInt64.size) : c.AccountFor attempts := by
  have hattempts : c.attempts.toNat = attempts.length := by
    rw [h.attempts_eq, UInt64.toNat_ofNat', Nat.mod_eq_of_lt hfits]
  have hended (ending : AttemptEnding) :
      (c.ended ending).toNat = Attempt.endingIn ending attempts := by
    rw [h.ended_eq, UInt64.toNat_ofNat', Nat.mod_eq_of_lt]
    exact (Attempt.endingIn_le_length ending attempts).trans_lt hfits
  refine
    { total := ?_
      attempts_eq := hattempts
      commits_eq := hended .committed
      rejections_eq := hended .rejected
      exhausted_eq := hended .exhausted
      readFailures_eq := hended .readFailed
      bootRestarts_le := h.bootRestarts_le
      bestBracket := h.bestBracket }
  rw [hattempts, Attempt.length_eq_endings, ← hended, ← hended, ← hended, ← hended]
  rfl

namespace ContinuousRun

variable (m : Machine σ) (act : ε → σ → σ)

/-- The attempts of a run, the newest first. -/
def attempts : ContinuousRun σ → List (ContinuousStep ε) → List (Attempt σ)
  | _, [] => []
  | run, step :: steps => attempts (run.step m act step) steps ++ (step.attempted? m run).toList

variable {m act}

/-- A step accounts for the attempt that it makes. -/
theorem step_accounts {run : ContinuousRun σ} {attempts : List (Attempt σ)}
    (h : run.count.estimator.counters.Accounts attempts) (step : ContinuousStep ε) :
    (run.step m act step).count.estimator.counters.Accounts
      ((step.attempted? m run).toList ++ attempts) := by
  cases step with
  | environment action => exact h
  | invalidate => exact h
  | refresh converter settings => exact Estimator.refresh_accounts h m converter settings run.state
  | ticks converter settings => exact Continuous.readWith_accounts h _ m converter settings _
  | approxTicks converter settings => exact Continuous.readWith_accounts h _ m converter settings _

/-- A run accounts for its attempts beside those that were accounted for before. -/
theorem accounts_of_accounts {run : ContinuousRun σ} {before : List (Attempt σ)}
    (h : run.count.estimator.counters.Accounts before) (steps : List (ContinuousStep ε)) :
    (run.run m act steps).count.estimator.counters.Accounts
      (run.attempts m act steps ++ before) := by
  induction steps generalizing run before with
  | nil => exact h
  | cons step steps ih =>
    rw [attempts, List.append_assoc]
    exact ih (step_accounts h step)

/-- A run of a new count accounts for its attempts. -/
theorem run_accounts (m : Machine σ) (act : ε → σ → σ) (settings : Settings) (s : σ)
    (steps : List (ContinuousStep ε)) :
    ((start settings s).run m act steps).count.estimator.counters.Accounts
      ((start settings s).attempts m act steps) := by
  have hnew : (start settings s).count.estimator.counters.Accounts ([] : List (Attempt σ)) :=
    ⟨rfl, fun ending => by cases ending <;> rfl, Nat.le_refl _, .nil⟩
  rw [← List.append_nil (attempts m act _ _)]
  exact accounts_of_accounts hnew steps

/-- A step that makes an attempt notes its outcome in the history. -/
theorem step_attempts (run : ContinuousRun σ) (step : ContinuousStep ε) :
    (run.step m act step).history.filterMap EstimatorEvent.attempt? =
      ((step.attempted? m run).map Attempt.outcome).toList ++
        run.history.filterMap EstimatorEvent.attempt? := by
  have hread (converter : Converter) (settings : Settings) :
      (((run.count.attempt? m converter settings run.state).map EstimatorEvent.refreshed).toList ++
        run.history).filterMap EstimatorEvent.attempt? =
      ((run.count.attempted? m converter settings run.state).map Attempt.outcome).toList ++
        run.history.filterMap EstimatorEvent.attempt? := by
    rw [Continuous.attempted?_outcome, List.filterMap_append]
    cases run.count.attempt? m converter settings run.state <;> rfl
  cases step with
  | environment action => rfl
  | invalidate => rfl
  | refresh converter settings => rfl
  | ticks converter settings => exact hread converter settings
  | approxTicks converter settings => exact hread converter settings

/-- The attempts of the history are those that the run makes, in their order. -/
theorem attempts_outcomes (run : ContinuousRun σ) (steps : List (ContinuousStep ε)) :
    (run.run m act steps).history.filterMap EstimatorEvent.attempt? =
      (run.attempts m act steps).map Attempt.outcome ++
        run.history.filterMap EstimatorEvent.attempt? := by
  induction steps generalizing run with
  | nil => rfl
  | cons step steps ih =>
    rw [attempts, List.map_append, List.append_assoc]
    refine (ih _).trans (congrArg _ ?_)
    rw [step_attempts]
    cases step.attempted? m run <;> rfl

/-- In every state of every run the counters account for each attempt once, as long as the attempts
fit a counter: the attempts are those of the history, the number of them is the sum of the four
endings, and the best bracket is the smallest of all pairs that were ever completed. -/
theorem run_accountedFor (m : Machine σ) (act : ε → σ → σ) (settings : Settings) (s : σ)
    (steps : List (ContinuousStep ε))
    (hfits : ((start settings s).attempts m act steps).length < UInt64.size) :
    ((start settings s).run m act steps).count.estimator.counters.AccountFor
        ((start settings s).attempts m act steps) ∧
      ((start settings s).attempts m act steps).map Attempt.outcome =
        ((start settings s).run m act steps).history.filterMap EstimatorEvent.attempt? := by
  refine ⟨(run_accounts m act settings s steps).accountFor hfits, ?_⟩
  rw [attempts_outcomes]
  exact (List.append_nil _).symm

/-- An attempt without a timebase, one that starts over because the boot time moves, one with a wall
clock that stands still, and a read after a sleep, which makes the last attempt. -/
def everyEndingSteps : List (ContinuousStep (Simulated → Simulated)) :=
  let estimate := .refresh (.calibrated .identity) .brief
  [.environment (Simulated.setStep 1000), .refresh .degraded .brief,
    .environment (Simulated.bumpBoot 1), estimate, .invalidate,
    .environment (Simulated.freezeWall true), estimate, .environment (Simulated.freezeWall false),
    .environment (Simulated.sleep (.ofNanos 10000000000)), .ticks (.calibrated .identity) .brief]

/-- The steps end an attempt in each of the four ways, and one attempt starts over. -/
theorem everyEndingSteps_accountedFor :
    let run := (start .brief (.withScale .identity)).run Simulated.machine id everyEndingSteps
    let attempts := (start .brief (.withScale .identity)).attempts Simulated.machine id
      everyEndingSteps
    run.count.estimator.counters = ⟨4, 1, 1, 1, 1, 1, some 2000⟩ ∧
      run.count.estimator.counters.AccountFor attempts ∧
      attempts.map Attempt.outcome = run.history.filterMap EstimatorEvent.attempt? := by
  refine ⟨by decide +kernel, ?_⟩
  exact run_accountedFor Simulated.machine id .brief (.withScale .identity) everyEndingSteps
    (by decide +kernel)

end ContinuousRun

end SoftClock
