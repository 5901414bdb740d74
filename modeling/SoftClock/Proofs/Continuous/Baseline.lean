import SoftClock.Machine.Simulated
import SoftClock.Proofs.Continuous.Journal

/-!
# The Baseline of a Run

The first negative raw estimate of a run becomes the baseline, and it stays the baseline for good.
This decides what every commit stores: the raw estimate itself before there is a baseline, and the
distance from the baseline afterwards.

* `Journal.first_negative`, `Journal.baseline_kept` and `Journal.baseline_eq_none` say where a
  baseline comes from;
* `Journal.commit_eq` says what a commit stores, and `Journal.committed_le` bounds the committed
  offset by the largest raw estimate so far;
* `ContinuousRun.run_anchored` puts them together for the estimates that complete in a run.
-/

namespace SoftClock

variable {σ ε : Type}

/-- No raw estimate of a journal is negative. -/
def NoneNegative (journal : List Completion) : Prop := ∀ x ∈ journal, 0 ≤ x.raw.toInt

/-- The largest raw estimate of a journal, or zero if all of them are negative. -/
def peakRaw (journal : List Completion) : ℤ := (journal.map fun x => x.raw.toInt).foldr max 0

theorem peakRaw_cons (x : Completion) (older : List Completion) :
    peakRaw (x :: older) = max x.raw.toInt (peakRaw older) := rfl

/-- The distance of a raw estimate from the baseline, or from zero, within the signed range. -/
def offsetFrom (baseline : Int64) (raw : Int64) : ℤ :=
  max (-0x8000000000000000) (min (raw.toInt - baseline.toInt) 0x7fffffffffffffff)

/-- From zero a raw estimate is as far as it says. -/
theorem offsetFrom_zero (raw : Int64) : offsetFrom 0 raw = raw.toInt := by
  have hraw := toInt_mem_range raw
  have hzero : (0 : Int64).toInt = 0 := rfl
  unfold offsetFrom
  omega

namespace Journal

variable {journal newer older : List Completion} {x : Completion} {e : Estimate}

/-- Without a negative raw estimate there is no baseline. -/
theorem baseline_eq_none (h : Journal journal e) (hnone : NoneNegative journal) :
    e.baseline = none := by
  induction journal generalizing e with
  | nil => rw [h.eq_of_nil]
  | cons x older ih =>
    have hbefore := ih h.tail fun y hy => hnone y (List.mem_cons_of_mem _ hy)
    rw [← h.after_eq, x.after_baseline]
    rcases x.before.observe_baseline x.raw with ⟨hkept, -⟩ | ⟨-, hneg, -⟩
    · rw [hkept, hbefore]
    · exact absurd (hnone x List.mem_cons_self) (Int.not_le.mpr hneg)

/-- The first negative raw estimate is the baseline, and its estimate commits nothing. -/
theorem first_negative (h : Journal (x :: older) e) (hnone : NoneNegative older)
    (hneg : x.raw.toInt < 0) : x.outcome = .unchanged ∧ e.baseline = some x.raw := by
  have hbaseline := h.tail.baseline_eq_none hnone
  constructor
  · rcases h.outcome_cases with ⟨houtcome, -⟩ | ⟨ticks, -, -, -, -, hlt⟩
    · exact houtcome
    · -- measured from itself it is zero, which clears no margin
      have hzero : x.candidate.toInt = 0 :=
        x.before.candidateOf_of_sets_baseline x.ratio x.sample hneg hbaseline
      omega
  · rw [← h.after_eq, x.after_baseline]
    rcases x.before.observe_baseline x.raw with ⟨-, hpos | hsome⟩ | ⟨hset, -⟩
    · omega
    · exact absurd hbaseline hsome
    · exact hset

/-- A baseline is never replaced. -/
theorem baseline_kept (h : Journal (newer ++ x :: older) e) {baseline : Int64}
    (hbaseline : x.after.baseline = some baseline) : e.baseline = some baseline := by
  induction newer generalizing e with
  | nil =>
    rw [← h.after_eq]
    exact hbaseline
  | cons y newer ih =>
    have hbefore := ih h.tail
    rw [← h.after_eq, y.after_baseline]
    rcases y.before.observe_baseline y.raw with ⟨hkept, -⟩ | ⟨-, -, hnone⟩
    · rw [hkept, hbefore]
    · rw [hbefore] at hnone
      cases hnone

/-- A commit stores the distance of its raw estimate from the baseline. -/
theorem commit_eq (h : Journal (x :: older) e) {ticks : UInt64}
    (houtcome : x.outcome = .committed ticks) :
    e.committed = ticks ∧ (ticks.toNat : ℤ) = offsetFrom (e.baseline.getD 0) x.raw := by
  obtain ⟨hcommitted, hticks, -⟩ := h.of_committed houtcome
  refine ⟨hcommitted, ?_⟩
  rw [hticks, ← h.after_eq, x.after_baseline]
  exact x.before.toInt_candidateOf x.ratio x.sample

/-- Before there is a baseline a commit stores its raw estimate. -/
theorem commit_raw (h : Journal (x :: older) e) (hnone : NoneNegative older) {ticks : UInt64}
    (houtcome : x.outcome = .committed ticks) :
    e.committed = ticks ∧ (ticks.toNat : ℤ) = x.raw.toInt := by
  -- the estimate is not the first negative one, since that commits nothing
  have hpos : 0 ≤ x.raw.toInt := by
    by_contra hneg
    have hunchanged := (h.first_negative hnone (Int.not_le.mp hneg)).1
    rw [hunchanged] at houtcome
    contradiction
  have hbaseline : e.baseline = none :=
    h.baseline_eq_none (List.forall_mem_cons.mpr ⟨hpos, hnone⟩)
  have hcommit := h.commit_eq houtcome
  rwa [hbaseline, Option.getD_none, offsetFrom_zero] at hcommit

/-- The committed offset is at most the distance of the largest raw estimate from the baseline. -/
theorem committed_le (h : Journal journal e) :
    (e.committed.toNat : ℤ) ≤
      min 0x7fffffffffffffff (peakRaw journal - (e.baseline.getD 0).toInt) := by
  induction journal generalizing e with
  | nil =>
    rw [h.eq_of_nil]
    decide
  | cons x older ih =>
    rw [peakRaw_cons]
    rcases h.outcome_cases with ⟨-, hcommitted, -⟩ | ⟨ticks, houtcome, -⟩
    · -- the offset stays, and neither the peak nor the distance from it shrinks
      have hbefore := ih h.tail
      rw [hcommitted]
      rw [← h.after_eq, x.after_baseline]
      rcases x.before.observe_baseline x.raw with ⟨hkept, -⟩ | ⟨hset, hneg, hnone⟩
      · rw [hkept]
        omega
      · rw [hnone, Option.getD_none, Int64.toInt_zero] at hbefore
        rw [hset, Option.getD_some]
        omega
    · obtain ⟨hcommitted, hticks⟩ := h.commit_eq houtcome
      rw [hcommitted]
      unfold offsetFrom at hticks
      omega

end Journal

/-! ## Runs -/

/-- What the completed estimates, the newest first, say about a baseline and the offsets that were
committed. -/
structure Anchored (journal : List Completion) (e : Estimate) : Prop where
  /-- Without a negative raw estimate there is no baseline. -/
  absent : NoneNegative journal → e.baseline = none
  /-- The first negative raw estimate sets the baseline for good, and commits nothing. -/
  first : ∀ newer x older, journal = newer ++ x :: older → NoneNegative older → x.raw.toInt < 0 →
    x.outcome = .unchanged ∧ x.after.baseline = some x.raw ∧ e.baseline = some x.raw
  /-- A commit before there is a baseline stores its raw estimate. -/
  commitBefore : ∀ newer x older ticks, journal = newer ++ x :: older → NoneNegative older →
    x.outcome = .committed ticks →
      x.after.committed = ticks ∧ (ticks.toNat : ℤ) = x.raw.toInt
  /-- A commit after the first negative raw estimate stores its distance from that one. -/
  commitAfter : ∀ newer x between first older ticks,
    journal = newer ++ x :: (between ++ first :: older) → NoneNegative older →
    first.raw.toInt < 0 → x.outcome = .committed ticks →
      x.after.committed = ticks ∧ (ticks.toNat : ℤ) = offsetFrom first.raw x.raw
  /-- The committed offset is at most the distance of the largest raw estimate from the baseline. -/
  committed_le : (e.committed.toNat : ℤ) ≤
    min 0x7fffffffffffffff (peakRaw journal - (e.baseline.getD 0).toInt)

/-- What is known is anchored by the estimates that led to it. -/
theorem Journal.anchored {journal : List Completion} {e : Estimate} (h : Journal journal e) :
    Anchored journal e where
  absent := h.baseline_eq_none
  first newer x older hsplit hnone hneg := by
    subst hsplit
    obtain ⟨houtcome, hset⟩ := h.split.first_negative hnone hneg
    exact ⟨houtcome, hset, h.baseline_kept hset⟩
  commitBefore newer x older ticks hsplit hnone houtcome := by
    subst hsplit
    exact h.split.commit_raw hnone houtcome
  commitAfter newer x between first older ticks hsplit hnone hneg houtcome := by
    subst hsplit
    -- the baseline was set by the first negative estimate, and has been kept until here
    have hset := (h.split.tail.split.first_negative hnone hneg).2
    have hlater : Journal ((x :: between) ++ first :: older) x.after := h.split
    have hbaseline := hlater.baseline_kept hset
    have hcommit := h.split.commit_eq houtcome
    rwa [hbaseline, Option.getD_some] at hcommit
  committed_le := h.committed_le

namespace ContinuousRun

/-- In every run the first negative raw estimate is the baseline from then on, and the commits are
measured from it. No completed attempt of the history is left out, and no later step changes the
baseline. -/
theorem run_anchored (m : Machine σ) (act : ε → σ → σ) (settings : Settings) (s : σ)
    (steps more : List (ContinuousStep ε)) :
    Anchored ((start settings s).completions m act steps)
        ((start settings s).run m act steps).count.estimator.estimate ∧
      ((start settings s).completions m act steps).map Completion.outcome =
        ((start settings s).run m act steps).history.filterMap EstimatorEvent.outcome? ∧
      ∀ baseline,
        ((start settings s).run m act steps).count.estimator.estimate.baseline = some baseline →
        ((start settings s).run m act (steps ++ more)).count.estimator.estimate.baseline =
          some baseline := by
  have hjournal := (run_recounts m act settings s steps).estimate
  refine ⟨hjournal.anchored, run_outcomes m act settings s steps, fun baseline hbaseline => ?_⟩
  have hmore := (run_recounts m act settings s (steps ++ more)).estimate
  rw [completions_append] at hmore
  rcases hcompleted : (start settings s).completions m act steps with _ | ⟨x, older⟩
  · -- nothing has completed, so there is no baseline
    rw [hcompleted] at hjournal
    rw [hjournal.eq_of_nil] at hbaseline
    cases hbaseline
  · rw [hcompleted] at hjournal hmore
    rw [← hjournal.after_eq] at hbaseline
    exact hmore.baseline_kept hbaseline

/-- A machine reports its boot time five milliseconds late, and then sleeps for ten. -/
def lateBootSteps : List (ContinuousStep (Simulated → Simulated)) :=
  [.environment (Simulated.setStep 1000), .environment (Simulated.setBootSkew 5000000),
    .refresh (.calibrated .identity) .brief, .environment (Simulated.sleep (.ofNanos 10000000)),
    .invalidate, .ticks (.calibrated .identity) .brief]

/-- The run of `lateBootSteps` on a simulated machine whose ticks are nanoseconds. -/
def lateBootRun : ContinuousRun Simulated :=
  (start .brief (.withScale .identity)).run Simulated.machine id lateBootSteps

/-- The first estimate is five milliseconds below zero. The second one is as far above, and the ten
milliseconds between them are committed. -/
theorem lateBootRun_anchored :
    ((start .brief (.withScale .identity)).completions Simulated.machine id lateBootSteps).map
        Completion.raw = [5000000, -5000000] ∧
      lateBootRun.count.estimator.estimate.baseline = some (-5000000) ∧
      lateBootRun.count.estimator.estimate.committed = 10000000 ∧
      Anchored
        ((start .brief (.withScale .identity)).completions Simulated.machine id lateBootSteps)
        lateBootRun.count.estimator.estimate := by
  refine ⟨by decide +kernel, by decide +kernel, by decide +kernel, ?_⟩
  unfold lateBootRun
  exact (run_anchored Simulated.machine id .brief (.withScale .identity) lateBootSteps []).1

end ContinuousRun

end SoftClock
