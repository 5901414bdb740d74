import SoftClock.Proofs.Continuous.Run
import SoftClock.Proofs.Offset.SimulatedRaw
import Mathlib.Algebra.Order.Field.Rat
import Mathlib.Tactic.Linarith

/-!
# Sleep is Tracked on Both Sides

On a simulated machine whose wall clock is kept, the committed offset follows the time asleep, to a
microsecond and a tick on either side. A scale of `n / d` nanoseconds a tick turns `S` nanoseconds
asleep into `S * d / n` ticks.

* `Estimate.Follows` is the invariant: the baseline is no deeper than a microsecond and a tick, and
  the committed offset is not ahead of the time asleep by more than that.
* `Estimate.Follows.absorb` is the step: a sample keeps the invariant, and what it commits is within
  the bounds on both sides.
* `ContinuousRun.sleep_tracked` states the bounds as rationals, for every run.
-/

namespace SoftClock

namespace Estimate

/-- A number of ticks is that of a time asleep in nanoseconds, up to a microsecond and a tick. -/
structure WithinSleep (scale : Scale) (slept : ℕ) (ticks : UInt64) : Prop where
  lower : ((slept : ℤ) - 1000) * scale.denom.toNat - scale.numer.toNat <
    ticks.toNat * scale.numer.toNat
  upper : (ticks.toNat : ℤ) * scale.numer.toNat <
    (slept + 1000) * scale.denom.toNat + scale.numer.toNat

/-- An estimate follows a time asleep in nanoseconds, on a machine with a tick scale. -/
structure Follows (scale : Scale) (slept : ℕ) (e : Estimate) : Prop where
  baseline : e.BaselineWithin scale 0
  committed : (e.committed.toNat : ℤ) * scale.numer.toNat <
    (slept + 1000) * scale.denom.toNat + scale.numer.toNat

namespace Follows

variable {scale : Scale} {slept : ℕ} {e : Estimate}

/-- Nothing was committed yet. -/
theorem new (hdenom : 0 < scale.denom.toNat) (slept : ℕ) : Follows scale slept {} where
  baseline := by
    intro b hb
    cases hb
  committed := by
    have hpos : (0 : ℤ) < (slept + 1000) * scale.denom.toNat :=
      Int.mul_pos (by omega) (Int.natCast_pos.mpr hdenom)
    show ((0 : UInt64).toNat : ℤ) * scale.numer.toNat < _
    rw [UInt64.toNat_zero, Int.natCast_zero, Int.zero_mul]
    omega

/-- More time asleep is followed as well. -/
theorem mono {slept' : ℕ} (h : Follows scale slept e) (hle : slept ≤ slept') :
    Follows scale slept' e where
  baseline := h.baseline
  committed := by
    refine h.committed.trans_le ?_
    have : ((slept : ℤ) + 1000) * scale.denom.toNat ≤ (slept' + 1000) * scale.denom.toNat :=
      Int.mul_le_mul_of_nonneg_right (by omega) (Int.natCast_nonneg _)
    omega

/-- A sample keeps the estimate following, and commits only what is within the bounds on both
sides. -/
theorem absorb {ratio : Ratio} {sample : BootSample} (h : Follows ratio.scale slept e)
    (settings : Settings)
    (hlow : ((slept : ℤ) - 1000) * ratio.scale.denom.toNat - ratio.scale.numer.toNat <
      (sample.raw ratio).toInt * ratio.scale.numer.toNat)
    (hhigh : (sample.raw ratio).toInt * ratio.scale.numer.toNat ≤
      slept * ratio.scale.denom.toNat) :
    Follows ratio.scale slept (e.absorb ratio settings sample).2 ∧
      ∀ ticks, (e.absorb ratio settings sample).1 = .committed ticks →
        WithinSleep ratio.scale slept ticks := by
  have hslept : 0 ≤ (slept : ℤ) * ratio.scale.denom.toNat := by positivity
  have hraw : (-((0 : ℤ) / 1000 * 1000) - 1000) * ratio.scale.denom.toNat -
      ratio.scale.numer.toNat < (sample.raw ratio).toInt * ratio.scale.numer.toNat := by
    rw [Int.sub_mul] at hlow
    omega
  have hbaseline := h.baseline.observe hraw
  -- the baseline may raise a candidate by a microsecond and a tick, and by nothing more
  obtain ⟨hle, hlt⟩ := h.baseline.candidate_bounds hraw le_rfl
  have hcandidate : (e.candidateOf ratio sample).toInt * ratio.scale.numer.toNat <
      (slept + 1000) * ratio.scale.denom.toNat + ratio.scale.numer.toNat := by
    rw [Int.add_mul]
    omega
  rcases e.absorb_cases ratio settings sample with ⟨habsorb, -⟩ | ⟨next, habsorb, hnext, -⟩
  · -- rejected: the committed offset stays
    rw [habsorb]
    refine ⟨⟨hbaseline, h.committed⟩, ?_⟩
    intro ticks hticks
    cases hticks
  · -- committed: the candidate is the new offset
    rw [habsorb]
    rw [← hnext] at hle hcandidate
    refine ⟨⟨hbaseline, hcandidate⟩, ?_⟩
    intro ticks hticks
    cases hticks
    refine ⟨hlow.trans_le ?_, hcandidate⟩
    exact Int.mul_le_mul_of_nonneg_right hle (Int.natCast_nonneg _)

end Follows

end Estimate

open Estimate

/-- A refresh on a simulated machine keeps the estimate following, and commits only what is within
the bounds. -/
theorem Estimator.refresh_follows {s t : Simulated × List (MachineRecord Simulated)} {ratio : Ratio}
    {settings : Settings} {e e' : Estimator} {outcome : Except ClockError RefreshOutcome}
    (hundisturbed : s.1.Undisturbed ratio.scale 0) (hfits : ∀ r ∈ t.2, r.Fits ratio.scale 0)
    (hrefresh : e.refresh Simulated.machine.recorded (.calibrated ratio) settings s =
      (outcome, e', t))
    (h : Follows ratio.scale s.1.slept.toNat e.estimate) :
    Follows ratio.scale s.1.slept.toNat e'.estimate ∧
      ∀ ticks, outcome = .ok (.committed ticks) →
        WithinSleep ratio.scale s.1.slept.toNat ticks := by
  rcases Estimator.refresh_cases hrefresh with
    ⟨error, counters, rfl, rfl, -⟩ | ⟨ratio', sample, counters, hratio, rfl, rfl, hobserves, -⟩
  · refine ⟨h, ?_⟩
    intro ticks hticks
    cases hticks
  · cases hratio
    obtain ⟨hlow, -, hhigh⟩ := raw_bounds hobserves hundisturbed le_rfl (by decide) hfits
    rw [Estimator.complete_estimate]
    obtain ⟨hfollows, hwithin⟩ := h.absorb settings (by simpa using hlow) (hhigh rfl)
    refine ⟨hfollows, ?_⟩
    intro ticks hticks
    exact hwithin ticks (Except.ok.inj hticks)

/-- The step keeps the wall clock of the machine, and uses one converter only. -/
def ContinuousStep.KeepsTime (ratio : Ratio) : ContinuousStep SimulatedAction → Prop
  | .environment action => action.keepsWall
  | .refresh converter _ | .ticks converter _ | .approxTicks converter _ =>
    converter = .calibrated ratio
  | .invalidate => True

instance (ratio : Ratio) (step : ContinuousStep SimulatedAction) :
    Decidable (step.KeepsTime ratio) := by
  cases step <;> unfold ContinuousStep.KeepsTime <;> infer_instance

/-- The converter that such a step uses is the one. -/
theorem ContinuousStep.KeepsTime.converter_eq {ratio : Ratio}
    {step : ContinuousStep SimulatedAction} (h : step.KeepsTime ratio) {converter : Converter}
    (hstep : step.converter? = some converter) : converter = .calibrated ratio := by
  cases step with
  | environment action => cases hstep
  | invalidate => cases hstep
  | refresh c settings | ticks c settings | approxTicks c settings =>
    cases hstep
    exact h

namespace ContinuousRun

/-- A run whose wall clock was kept, and whose estimate follows the time asleep. -/
structure Follows (ratio : Ratio)
    (run : ContinuousRun (Simulated × List (MachineRecord Simulated))) : Prop where
  undisturbed : run.state.1.Undisturbed ratio.scale 0
  estimate : run.count.estimator.estimate.Follows ratio.scale run.state.1.slept.toNat

/-- A step that keeps the wall clock and uses the converter of the machine keeps the estimate
following, and a commit that it adds to the history is within the bounds. -/
theorem Change.follows {ratio : Ratio} {step : ContinuousStep SimulatedAction}
    {run run' : ContinuousRun (Simulated × List (MachineRecord Simulated))}
    (hchange : Change Simulated.machine.recorded (Machine.besideRecord Simulated.act) step run run')
    (hkeeps : step.KeepsTime ratio) (hfits : ∀ r ∈ run'.state.2, r.Fits ratio.scale 0)
    (h : Follows ratio run) :
    Follows ratio run' ∧
      ∀ ticks, run'.history = .refreshed (.ok (.committed ticks)) :: run.history →
        WithinSleep ratio.scale run'.state.1.slept.toNat ticks := by
  obtain ⟨hundisturbed, hestimate⟩ := h
  -- a history that did not grow has no new commit
  have hnone {event : EstimatorEvent} : ¬ run.history = event :: run.history :=
    fun h => List.cons_ne_self event run.history h.symm
  cases hchange with
  | environment action =>
    -- the machine may sleep, which only raises the bound
    have hlater := Simulated.Later.act hundisturbed.bootBumps_eq hkeeps
    refine ⟨⟨hundisturbed.later hlater, hestimate.mono ?_⟩, fun ticks h => (hnone h).elim⟩
    exact UInt64.le_iff_toNat_le.mp hlater.slept_le
  | invalidated =>
    refine ⟨⟨hundisturbed, hestimate⟩, fun ticks h => ?_⟩
    cases (List.cons.inj h).1
  | @idle _ _ t hreads =>
    refine ⟨⟨hundisturbed.reads hreads.of_recorded, ?_⟩, fun ticks h => (hnone h).elim⟩
    show Estimate.Follows ratio.scale t.1.slept.toNat _
    rw [hundisturbed.slept_reads hreads.of_recorded]
    exact hestimate
  | @refreshed _ _ s t u converter settings outcome e hstep hbefore hrefresh hafter =>
    obtain rfl : converter = .calibrated ratio := hkeeps.converter_eq hstep
    have hduring := Estimator.refresh_reads hrefresh
    have hundisturbed' := hundisturbed.reads hbefore.of_recorded
    have hslept : s.1.slept = run.state.1.slept := hundisturbed.slept_reads hbefore.of_recorded
    have hslept' : u.1.slept = s.1.slept :=
      hundisturbed'.slept_reads (hduring.trans hafter).of_recorded
    rw [← hslept] at hestimate
    obtain ⟨hfollows, hwithin⟩ := Estimator.refresh_follows hundisturbed'
      (fun r hr => hfits r (hafter.suffix.subset hr)) hrefresh hestimate
    refine ⟨⟨hundisturbed'.reads (hduring.trans hafter).of_recorded, ?_⟩, fun ticks h => ?_⟩
    · show Estimate.Follows ratio.scale u.1.slept.toNat _
      rw [hslept']
      exact hfollows
    · show WithinSleep ratio.scale u.1.slept.toNat ticks
      rw [hslept']
      exact hwithin ticks (EstimatorEvent.refreshed.inj (List.cons.inj h).1)

/-- Every run that keeps the wall clock keeps the estimate following. -/
theorem run_follows (ratio : Ratio) (settings : Settings)
    (steps : List (ContinuousStep SimulatedAction))
    (hkeeps : ∀ step ∈ steps, step.KeepsTime ratio)
    (hfits : ∀ r ∈ record Simulated.machine Simulated.act settings (.withScale ratio.scale) steps,
      r.Fits ratio.scale 0) :
    Follows ratio ((start settings (Simulated.withScale ratio.scale, [])).run
      Simulated.machine.recorded (Machine.besideRecord Simulated.act) steps) := by
  refine run_keeps_recorded (P := fun records => ∀ r ∈ records, r.Fits ratio.scale 0) ?_ ?_ ?_ hfits
  · intro older records hsuffix hfits' r hr
    exact hfits' r (hsuffix.subset hr)
  · intro step hstep run run' hchange hfits' hfollows
    exact (hchange.follows (hkeeps step hstep) hfits' hfollows).1
  · exact ⟨Simulated.undisturbed_withScale ratio.scale, .new ratio.denom_pos _⟩

/-- The run of a new count on a new simulated machine. -/
def simulated (scale : Scale) (settings : Settings)
    (steps : List (ContinuousStep SimulatedAction)) : ContinuousRun Simulated :=
  (start settings (.withScale scale)).run Simulated.machine Simulated.act steps

/-- Below the time asleep and a microsecond, as rationals. -/
theorem cast_lt_add {ratio : Ratio} {slept ticks : ℕ}
    (h : (ticks : ℤ) * ratio.scale.numer.toNat <
      (slept + 1000) * ratio.scale.denom.toNat + ratio.scale.numer.toNat) :
    (ticks : ℚ) <
      (slept + 1000) * ratio.scale.denom.toNat / ratio.scale.numer.toNat + 1 := by
  have hn : (0 : ℚ) < ratio.scale.numer.toNat := Nat.cast_pos.mpr ratio.numer_pos
  rw [div_add_one hn.ne', lt_div_iff₀ hn]
  exact_mod_cast h

/-- Above the time asleep less a microsecond, as rationals. -/
theorem sub_lt_cast {ratio : Ratio} {slept ticks : ℕ}
    (h : ((slept : ℤ) - 1000) * ratio.scale.denom.toNat - ratio.scale.numer.toNat <
      ticks * ratio.scale.numer.toNat) :
    ((slept : ℚ) - 1000) * ratio.scale.denom.toNat / ratio.scale.numer.toNat - 1 < ticks := by
  have hn : (0 : ℚ) < ratio.scale.numer.toNat := Nat.cast_pos.mpr ratio.numer_pos
  rw [div_sub_one hn.ne', div_lt_iff₀ hn]
  exact_mod_cast h

/-- As long as the times of the machine are in range, sleep is tracked on both sides. In every state
the committed offset is below the time asleep and a microsecond, in ticks, by rounding up to less
than one. What a step commits is within a microsecond and a tick of the time asleep. -/
theorem sleep_tracked (ratio : Ratio) (settings : Settings)
    (steps : List (ContinuousStep SimulatedAction))
    (hkeeps : ∀ step ∈ steps, step.KeepsTime ratio)
    (hrange : ∀ r ∈ record Simulated.machine Simulated.act settings (.withScale ratio.scale) steps,
      r.InRange ratio.scale (2 ^ 64) (2 ^ 63)) :
    ((simulated ratio.scale settings steps).count.estimator.estimate.committed.toNat : ℚ) <
        ((simulated ratio.scale settings steps).state.slept.toNat + 1000) *
          ratio.scale.denom.toNat / ratio.scale.numer.toNat + 1 ∧
      ∀ before step ticks, steps = before ++ [step] →
        (simulated ratio.scale settings steps).history =
          .refreshed (.ok (.committed ticks)) :: (simulated ratio.scale settings before).history →
        (((simulated ratio.scale settings steps).state.slept.toNat : ℚ) - 1000) *
            ratio.scale.denom.toNat / ratio.scale.numer.toNat - 1 < ticks.toNat ∧
          (ticks.toNat : ℚ) < ((simulated ratio.scale settings steps).state.slept.toNat + 1000) *
            ratio.scale.denom.toNat / ratio.scale.numer.toNat + 1 := by
  have hfits : ∀ r ∈ record Simulated.machine Simulated.act settings (.withScale ratio.scale) steps,
      r.Fits ratio.scale 0 := fun r hr => (hrange r hr).fits
  have hagrees := run_recorded Simulated.machine Simulated.act settings (.withScale ratio.scale)
    steps
  refine ⟨cast_lt_add ?_, ?_⟩
  · have hcommitted := (run_follows ratio settings steps hkeeps hfits).estimate.committed
    rw [hagrees.count, hagrees.state] at hcommitted
    exact hcommitted
  · rintro before step ticks rfl hhistory
    have hbefore := run_recorded Simulated.machine Simulated.act settings (.withScale ratio.scale)
      before
    have hchange := step_change Simulated.machine.recorded (Machine.besideRecord Simulated.act)
      ((start settings (Simulated.withScale ratio.scale, [])).run Simulated.machine.recorded
        (Machine.besideRecord Simulated.act) before) step
    rw [← run_concat] at hchange
    -- the record before the last step is the older part of the whole one
    have hfollows := run_follows ratio settings before
      (fun step hstep => hkeeps step (List.mem_append_left _ hstep))
      (fun r hr => hfits r (hchange.suffix.subset hr))
    have hwithin := (hchange.follows (hkeeps step (List.mem_append_right _ List.mem_cons_self))
      hfits hfollows).2 ticks
    rw [hagrees.history, hbefore.history, hagrees.state] at hwithin
    obtain ⟨hlower, hupper⟩ := hwithin hhistory
    exact ⟨sub_lt_cast hlower, cast_lt_add hupper⟩

/-- A 24 MHz machine is sampled, sleeps for ten milliseconds, and is sampled again. -/
def trackedSteps : List (ContinuousStep SimulatedAction) :=
  [.environment (.setStep 100), .refresh (.calibrated .megahertz24) .brief,
    .environment (.sleep (.ofNanos 10000000)), .refresh (.calibrated .megahertz24) .brief]

/-- The second sample commits 240008 ticks for a time asleep of 240000, as the first one has set a
baseline below zero. -/
theorem trackedSteps_committed :
    (simulated .megahertz24 .brief trackedSteps).history =
        .refreshed (.ok (.committed 240008)) ::
          (simulated .megahertz24 .brief trackedSteps.dropLast).history ∧
      (((simulated .megahertz24 .brief trackedSteps).state.slept.toNat : ℚ) - 1000) *
          Scale.megahertz24.denom.toNat / Scale.megahertz24.numer.toNat - 1 <
        (240008 : UInt64).toNat := by
  have hhistory : (simulated .megahertz24 .brief trackedSteps).history =
      .refreshed (.ok (.committed 240008)) ::
        (simulated .megahertz24 .brief trackedSteps.dropLast).history := rfl
  refine ⟨hhistory, ?_⟩
  exact ((sleep_tracked .megahertz24 .brief trackedSteps (by decide) (by decide +kernel)).2
    trackedSteps.dropLast _ 240008 rfl hhistory).1

end ContinuousRun

end SoftClock
