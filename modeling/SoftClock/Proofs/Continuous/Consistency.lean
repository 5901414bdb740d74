import SoftClock.Machine.Simulated
import SoftClock.Proofs.Continuous.Run

/-!
# Consistency of the Estimator

What the fields of an estimator say about each other in every state that a run can reach, whatever
the machine, the converters and the settings do.

* `Estimator.Tracks` relates an estimator to the history of its run. It is the invariant: every
  change keeps it (`Change.tracks`), so every run does (`run_tracks`).
* `Estimator.Consistent` is what follows for the fields themselves as long as the counters of
  commits and rejections have not wrapped (`run_consistent`).
-/

namespace SoftClock

variable {σ ε : Type}

namespace EstimatorEvent

/-- An estimate that was committed. -/
def isCommit : EstimatorEvent → Bool
  | .refreshed (.ok (.committed _)) => true
  | _ => false

/-- An estimate that completed and was not committed. -/
def isRejection : EstimatorEvent → Bool
  | .refreshed (.ok .unchanged) => true
  | _ => false

/-- An invalidation. -/
def isInvalidation : EstimatorEvent → Bool
  | .invalidated => true
  | .refreshed _ => false

/-- The commits of a history. -/
def commits (history : List EstimatorEvent) : ℕ := history.countP isCommit

/-- The rejections of a history. -/
def rejections (history : List EstimatorEvent) : ℕ := history.countP isRejection

/-- Some estimate has completed since the last invalidation. -/
def CompletedSinceInvalidation (history : List EstimatorEvent) : Prop :=
  ∃ outcome, .refreshed (.ok outcome) ∈ history.takeWhile fun event => !event.isInvalidation

variable {history : List EstimatorEvent}

@[simp]
theorem commits_committed (ticks : UInt64) :
    commits (.refreshed (.ok (.committed ticks)) :: history) = commits history + 1 :=
  List.countP_cons_of_pos rfl

@[simp]
theorem rejections_committed (ticks : UInt64) :
    rejections (.refreshed (.ok (.committed ticks)) :: history) = rejections history :=
  List.countP_cons_of_neg Bool.false_ne_true

@[simp]
theorem commits_unchanged :
    commits (.refreshed (.ok .unchanged) :: history) = commits history :=
  List.countP_cons_of_neg Bool.false_ne_true

@[simp]
theorem rejections_unchanged :
    rejections (.refreshed (.ok .unchanged) :: history) = rejections history + 1 :=
  List.countP_cons_of_pos rfl

/-- A failed attempt completes nothing. -/
theorem completedSinceInvalidation_error (error : ClockError) :
    CompletedSinceInvalidation (.refreshed (.error error) :: history) ↔
      CompletedSinceInvalidation history := by
  simp [CompletedSinceInvalidation, isInvalidation]

/-- A completed attempt is one since the last invalidation. -/
theorem completedSinceInvalidation_ok (outcome : RefreshOutcome) :
    CompletedSinceInvalidation (.refreshed (.ok outcome) :: history) :=
  ⟨outcome, by simp [isInvalidation]⟩

/-- Nothing has completed since an invalidation that has just happened. -/
theorem not_completedSinceInvalidation_invalidated :
    ¬ CompletedSinceInvalidation (.invalidated :: history) := by
  simp [CompletedSinceInvalidation, isInvalidation]

/-- What has completed was committed or rejected. -/
theorem CompletedSinceInvalidation.pos (h : CompletedSinceInvalidation history) :
    0 < commits history + rejections history := by
  obtain ⟨outcome, hmem⟩ := h
  have hmem' := (List.takeWhile_prefix _).subset hmem
  cases outcome with
  | committed ticks =>
    have : 0 < commits history := List.countP_pos_iff.mpr ⟨_, hmem', rfl⟩
    omega
  | unchanged =>
    have : 0 < rejections history := List.countP_pos_iff.mpr ⟨_, hmem', rfl⟩
    omega

end EstimatorEvent

open EstimatorEvent

namespace Estimator

/-! ## The invariant -/

/-- An estimator agrees with the history of its run. -/
structure Tracks (history : List EstimatorEvent) (e : Estimator) : Prop where
  published_eq : e.published = e.estimate.committed
  committed_lt : e.estimate.committed.toNat < 0x8000000000000000
  committed_pos : 0 < e.estimate.committed.toNat ↔ 0 < commits history
  commits_eq : e.counters.commits = .ofNat (commits history)
  rejections_eq : e.counters.rejections = .ofNat (rejections history)
  raw_isSome : e.estimate.raw.isSome ↔ 0 < commits history + rejections history
  baseline_neg : ∀ b, e.estimate.baseline = some b → b.toInt < 0 ∧ 0 < rejections history
  valid_iff : e.valid ↔ CompletedSinceInvalidation history

namespace Tracks

variable {history : List EstimatorEvent} {e : Estimator}

/-- A new estimator agrees with the empty history. -/
theorem new : Tracks [] .new where
  published_eq := rfl
  committed_lt := by decide
  committed_pos := by decide
  commits_eq := rfl
  rejections_eq := rfl
  raw_isSome := by decide
  baseline_neg := by simp [Estimator.new]
  valid_iff := by simp [Estimator.new, CompletedSinceInvalidation]

/-- An invalidation touches the flag only. -/
theorem invalidate (h : Tracks history e) : Tracks (.invalidated :: history) e.invalidate where
  published_eq := h.published_eq
  committed_lt := h.committed_lt
  committed_pos := h.committed_pos
  commits_eq := h.commits_eq
  rejections_eq := h.rejections_eq
  raw_isSome := h.raw_isSome
  baseline_neg := h.baseline_neg
  valid_iff := by simp [Estimator.invalidate, not_completedSinceInvalidation_invalidated]

/-- A failed attempt touches counters only, and not those of completed estimates. -/
theorem failed (h : Tracks history e) (error : ClockError) {counters : Counters}
    (hcommits : counters.commits = e.counters.commits)
    (hrejections : counters.rejections = e.counters.rejections) :
    Tracks (.refreshed (.error error) :: history) { e with counters } where
  published_eq := h.published_eq
  committed_lt := h.committed_lt
  committed_pos := h.committed_pos
  commits_eq := hcommits.trans h.commits_eq
  rejections_eq := hrejections.trans h.rejections_eq
  raw_isSome := h.raw_isSome
  baseline_neg := h.baseline_neg
  valid_iff := h.valid_iff.trans (completedSinceInvalidation_error error).symm

/-- A rejected sample is noted; only a rejected one can set the baseline. -/
theorem rejected (h : Tracks history e) {ratio : Ratio} {sample : BootSample} {counters : Counters}
    (driftSince : Option ℤ) (wall : Timeval) (hcommits : counters.commits = e.counters.commits)
    (hrejections : counters.rejections = e.counters.rejections) :
    Tracks (.refreshed (.ok .unchanged) :: history)
      (e.complete .unchanged { e.estimate.observe (sample.raw ratio) with driftSince } counters
        wall) where
  published_eq := h.published_eq
  committed_lt := h.committed_lt
  committed_pos := h.committed_pos
  commits_eq := hcommits.trans h.commits_eq
  rejections_eq := by
    rw [rejections_unchanged]
    exact ofNat_succ_of_eq (hrejections.trans h.rejections_eq)
  raw_isSome := by
    refine ⟨fun _ => ?_, fun _ => rfl⟩
    rw [commits_unchanged, rejections_unchanged]
    omega
  baseline_neg := by
    have hkept (b : Int64) (hb : e.estimate.baseline = some b) :
        b.toInt < 0 ∧ 0 < rejections (.refreshed (.ok .unchanged) :: history) := by
      refine ⟨(h.baseline_neg b hb).1, ?_⟩
      rw [rejections_unchanged]
      omega
    refine Estimate.baseline_observe_of hkept fun hneg => ⟨hneg, ?_⟩
    rw [rejections_unchanged]
    omega
  valid_iff := by simp [complete, completedSinceInvalidation_ok]

/-- A committed sample raises the committed and the published offset together. -/
theorem committed (h : Tracks history e) {ratio : Ratio} {sample : BootSample} {counters : Counters}
    {next : UInt64} (driftSince : Option ℤ) (wall : Timeval)
    (hnext : (next.toNat : ℤ) = (e.estimate.candidateOf ratio sample).toInt)
    (hlt : e.estimate.committed.toNat < next.toNat)
    (hcommits : counters.commits = e.counters.commits)
    (hrejections : counters.rejections = e.counters.rejections) :
    Tracks (.refreshed (.ok (.committed next)) :: history)
      (e.complete (.committed next)
        { e.estimate.observe (sample.raw ratio) with committed := next, driftSince } counters
        wall) where
  published_eq := by
    show max e.published next = next
    rw [h.published_eq]
    exact if_pos (UInt64.le_iff_toNat_le.mpr hlt.le)
  committed_lt := by
    -- a candidate is a signed word
    show next.toNat < _
    have := toInt_mem_range (e.estimate.candidateOf ratio sample)
    omega
  committed_pos := by
    show 0 < next.toNat ↔ _
    rw [commits_committed]
    omega
  commits_eq := by
    rw [commits_committed]
    exact ofNat_succ_of_eq (hcommits.trans h.commits_eq)
  rejections_eq := hrejections.trans h.rejections_eq
  raw_isSome := by
    refine ⟨fun _ => ?_, fun _ => rfl⟩
    rw [commits_committed, rejections_committed]
    omega
  baseline_neg b hb := by
    rcases e.estimate.observe_baseline (sample.raw ratio) with ⟨hkept, -⟩ | ⟨-, hneg, hnone⟩
    · exact h.baseline_neg b (hkept.symm.trans hb)
    · -- the candidate would be zero, which no commit raises an offset to
      have := e.estimate.candidateOf_of_sets_baseline ratio sample hneg hnone
      omega
  valid_iff := by simp [complete, completedSinceInvalidation_ok]

/-- A refresh keeps the invariant however it ends. -/
theorem refresh {m : Machine σ} {converter : Converter} {settings : Settings} {s t : σ}
    {outcome : Except ClockError RefreshOutcome} {e' : Estimator} (h : Tracks history e)
    (hrefresh : e.refresh m converter settings s = (outcome, e', t)) :
    Tracks (.refreshed outcome :: history) e' := by
  rcases refresh_cases hrefresh with
    ⟨error, counters, rfl, rfl, hcommits, hrejections⟩ |
    ⟨ratio, sample, counters, -, rfl, rfl, -, hcommits, hrejections⟩
  · exact h.failed error hcommits hrejections
  · rcases e.estimate.absorb_cases ratio settings sample with
      ⟨habsorb, -⟩ | ⟨next, habsorb, hnext, hlt⟩
    · rw [habsorb]
      exact h.rejected _ _ hcommits hrejections
    · rw [habsorb]
      exact h.committed _ _ hnext (by omega) hcommits hrejections

end Tracks

/-! ## What the fields say about each other -/

/-- The fields of an estimator agree with each other, and the flag with the history. -/
structure Consistent (history : List EstimatorEvent) (e : Estimator) : Prop where
  /-- Readers add the committed offset. -/
  published_eq : e.published = e.estimate.committed
  /-- The committed offset fits a signed word. -/
  committed_le : e.estimate.committed.toNat ≤ 0x7fffffffffffffff
  /-- Only commits raise the committed offset, and each of them does. -/
  committed_pos : 0 < e.estimate.committed ↔ 0 < e.counters.commits
  /-- Completed estimates, and only they, leave a raw value. -/
  raw_isSome : e.estimate.raw.isSome ↔ 0 < e.counters.commits.toNat + e.counters.rejections.toNat
  /-- The baseline is negative and was set by an estimate that was rejected. -/
  baseline_neg : ∀ b, e.estimate.baseline = some b → b < 0 ∧ 0 < e.counters.rejections
  /-- The flag says whether an estimate has completed since the last invalidation. -/
  valid_iff : e.valid ↔ CompletedSinceInvalidation history
  /-- Where the flag is set there is a raw value. -/
  raw_of_valid : e.valid → e.estimate.raw.isSome

/-- Agreement with a history whose counts fit their counters is consistency. -/
theorem Tracks.consistent {history : List EstimatorEvent} {e : Estimator} (h : Tracks history e)
    (hcommits : commits history < UInt64.size) (hrejections : rejections history < UInt64.size) :
    Consistent history e := by
  -- counters that have not wrapped are the counts of the history
  have hc : e.counters.commits.toNat = commits history := by
    rw [h.commits_eq, UInt64.toNat_ofNat', Nat.mod_eq_of_lt hcommits]
  have hr : e.counters.rejections.toNat = rejections history := by
    rw [h.rejections_eq, UInt64.toNat_ofNat', Nat.mod_eq_of_lt hrejections]
  have hpos (w : UInt64) : 0 < w ↔ 0 < w.toNat := UInt64.lt_iff_toNat_lt
  refine
    { published_eq := h.published_eq
      committed_le := Nat.le_of_lt_succ h.committed_lt
      committed_pos := ?_
      raw_isSome := ?_
      baseline_neg := ?_
      valid_iff := h.valid_iff
      raw_of_valid := fun hvalid => h.raw_isSome.mpr (h.valid_iff.mp hvalid).pos }
  · rw [hpos, hpos, hc]
    exact h.committed_pos
  · rw [hc, hr]
    exact h.raw_isSome
  · intro b hb
    -- every baseline came with a rejection
    rw [hpos, hr, Int64.lt_iff_toInt_lt]
    exact h.baseline_neg b hb

end Estimator

namespace ContinuousRun

open Estimator

variable {m : Machine σ} {act : ε → σ → σ} {run run' : ContinuousRun σ}

/-- Every change keeps the invariant. -/
theorem Change.tracks {step : ContinuousStep ε} (hchange : Change m act step run run')
    (h : Tracks run.history run.count.estimator) : Tracks run'.history run'.count.estimator := by
  cases hchange with
  | environment action => exact h
  | invalidated => exact h.invalidate
  | idle hreads => exact h
  | refreshed hconverter hbefore hrefresh hafter => exact h.refresh hrefresh

/-- Every run keeps the estimator in agreement with its history. -/
theorem run_tracks (m : Machine σ) (act : ε → σ → σ) (settings : Settings) (s : σ)
    (steps : List (ContinuousStep ε)) :
    Tracks ((start settings s).run m act steps).history
      ((start settings s).run m act steps).count.estimator :=
  run_keeps (P := fun run => Tracks run.history run.count.estimator)
    (fun _ _ _ _ hchange => hchange.tracks) .new

/-- No change lowers the committed offset. -/
theorem Change.committed_le {step : ContinuousStep ε} (hchange : Change m act step run run') :
    run.count.estimator.estimate.committed ≤ run'.count.estimator.estimate.committed := by
  cases hchange with
  | environment action => exact UInt64.le_refl _
  | invalidated => exact UInt64.le_refl _
  | idle hreads => exact UInt64.le_refl _
  | refreshed hconverter hbefore hrefresh hafter => exact Estimator.refresh_committed_le hrefresh

/-- In every state of every run the estimator is consistent, as long as neither counter of completed
estimates has wrapped, and the next step does not lower the committed offset. -/
theorem run_consistent (m : Machine σ) (act : ε → σ → σ) (settings : Settings) (s : σ)
    (steps : List (ContinuousStep ε)) (step : ContinuousStep ε)
    (hcommits : commits ((start settings s).run m act steps).history < UInt64.size)
    (hrejections : rejections ((start settings s).run m act steps).history < UInt64.size) :
    Consistent ((start settings s).run m act steps).history
        ((start settings s).run m act steps).count.estimator ∧
      ((start settings s).run m act steps).count.estimator.estimate.committed ≤
        ((start settings s).run m act (steps ++ [step])).count.estimator.estimate.committed := by
  refine ⟨(run_tracks m act settings s steps).consistent hcommits hrejections, ?_⟩
  rw [run_concat]
  exact (step_change m act _ step).committed_le

/-- A machine sleeps for ten milliseconds. The first attempt has no timebase, and a read makes the
second one, which commits. -/
def napSteps : List (ContinuousStep (Simulated → Simulated)) :=
  [.environment (Simulated.setStep 1000), .environment (Simulated.sleep (.ofNanos 10000000)),
    .refresh .degraded .brief, .invalidate, .ticks (.calibrated .identity) .brief]

/-- The run of `napSteps` on a simulated machine whose ticks are nanoseconds. -/
def napRun : ContinuousRun Simulated :=
  (start .brief (.withScale .identity)).run Simulated.machine id napSteps

theorem napRun_consistent :
    commits napRun.history = 1 ∧ rejections napRun.history = 0 ∧
      Consistent napRun.history napRun.count.estimator := by
  have hcommits : commits napRun.history = 1 := by decide +kernel
  have hrejections : rejections napRun.history = 0 := by decide +kernel
  refine ⟨hcommits, hrejections, ?_⟩
  refine (run_consistent Simulated.machine id .brief (.withScale .identity) napSteps .invalidate
    ?_ ?_).1
  · show commits napRun.history < _
    rw [hcommits]
    decide
  · show rejections napRun.history < _
    rw [hrejections]
    decide

end ContinuousRun

end SoftClock
