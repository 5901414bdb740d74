import SoftClock.Proofs.Clock.Run
import SoftClock.Proofs.Offset.SimulatedRaw

/-!
# No Phantom Sleep

A simulated machine that never sleeps never has an offset committed, whatever the skew of its boot
time, as long as the scale is not coarser than 400 microseconds a tick and the smallest advance is
at least a millisecond.

A raw estimate without sleep is the skew in ticks below zero, by up to a microsecond and a tick more
and up to a tick less. The first negative one becomes the baseline, so what is left of later ones is
less than a microsecond and two ticks, which a millisecond covers.

* `Estimator.Unslept` is the invariant: nothing is committed or published, and the baseline is no
  deeper than the skew, a microsecond and a tick.
* `Estimator.refresh_unslept` is the step: a completed refresh leaves the offset unchanged.
* `ClockRun.no_phantom_sleep` states this for every run of a clock.
-/

namespace SoftClock

variable {σ : Type}

/-! ## The margin -/

/-- A margin is at least the ticks of the smallest advance. -/
theorem Estimate.le_marginOf (e : Estimate) (ratio : Ratio) (settings : Settings)
    (sample : BootSample) (hadvance : 1000000 ≤ settings.minOffsetAdvance.nanos) :
    min (1000000 * ratio.scale.denom.toNat / ratio.scale.numer.toNat) 0xffffffffffffffff ≤
      (e.marginOf ratio settings sample).toNat := by
  have hclamped : 1000000 ≤ settings.minOffsetAdvance.clampedNanos.toNat := by
    rw [Duration.clampedNanos, toNat_ofNatClamp]
    omega
  have hfloor : min (1000000 * ratio.scale.denom.toNat / ratio.scale.numer.toNat)
      0xffffffffffffffff ≤
        (ratio.nanosToTicks settings.minOffsetAdvance.clampedNanos).toNat := by
    rw [Ratio.toNat_nanosToTicks]
    exact min_le_min_right _ (Nat.div_le_div_right (Nat.mul_le_mul_right _ hclamped))
  unfold marginOf margin
  rw [toNat_requiredAdvance]
  exact hfloor.trans (le_max_left _ _)

/-- What is less than a microsecond and two ticks is covered by a millisecond, where a tick is at
most 400 microseconds. -/
theorem le_of_lt_micro {candidate : ℤ} {n d : ℕ} (hn : 0 < n) (hcoarse : n ≤ 400000 * d)
    (hlt : candidate * n < 1000 * d + 2 * n) : candidate ≤ (1000000 * d / n : ℕ) := by
  rw [Int.natCast_ediv, Int.le_ediv_iff_mul_le (Int.natCast_pos.mpr hn)]
  push_cast
  omega

/-! ## The estimator -/

/-- An estimator that has seen no sleep. -/
structure Estimator.Unslept (scale : Scale) (skew : ℤ) (e : Estimator) : Prop where
  committed : e.estimate.committed = 0
  published : e.published = 0
  baseline : e.estimate.BaselineWithin scale skew

/-- A machine that has not slept, with a skew in its boot time. -/
structure Simulated.Unslept (scale : Scale) (skew : ℤ) (s : Simulated) : Prop where
  undisturbed : s.Undisturbed scale skew
  slept : s.slept = 0

/-- Reads put no machine to sleep. -/
theorem Simulated.Unslept.reads {scale : Scale} {skew : ℤ} {s t : Simulated}
    (h : s.Unslept scale skew) (hreads : Simulated.machine.Reads s t) : t.Unslept scale skew :=
  ⟨h.undisturbed.reads hreads, (h.undisturbed.slept_reads hreads).trans h.slept⟩

/-- Actions that stay awake put no machine to sleep. -/
theorem Simulated.Unslept.act {scale : Scale} {skew : ℤ} {s : Simulated}
    (h : s.Unslept scale skew) {action : SimulatedAction} (hawake : action.staysAwake) :
    (Simulated.act action s).Unslept scale skew := by
  have hbumps := h.undisturbed.bootBumps_eq
  refine ⟨h.undisturbed.later (.act hbumps (action.staysAwake_iff.mp hawake).1), ?_⟩
  exact (Simulated.slept_act hbumps hawake).trans h.slept

/-- A new machine with a skew in its boot time, after some actions. -/
def Simulated.skewed (scale : Scale) (skew : Int64) (before : List SimulatedAction) : Simulated :=
  before.foldl (fun s action => act action s) ((withScale scale).setBootSkew skew)

/-- A machine that only stayed awake since its skew was set has not slept. -/
theorem Simulated.unslept_skewed (scale : Scale) (skew : Int64) {before : List SimulatedAction}
    (hawake : ∀ action ∈ before, action.staysAwake) :
    (skewed scale skew before).Unslept scale skew.toInt := by
  have hnew : ((withScale scale).setBootSkew skew).Unslept scale skew.toInt :=
    ⟨(undisturbed_withScale scale).setBootSkew skew, rfl⟩
  rw [skewed]
  generalize (withScale scale).setBootSkew skew = s at hnew
  induction before generalizing s with
  | nil => exact hnew
  | cons action before ih =>
    refine ih (fun next hnext => hawake next (List.mem_cons_of_mem _ hnext)) _ ?_
    exact hnew.act (hawake action List.mem_cons_self)

/-- What a machine and settings have to be for sleep not to be seen where there is none: a tick is
at most 400 microseconds, the skew is not negative, and the smallest advance is a millisecond. -/
structure Steady (scale : Scale) (skew : ℤ) (settings : Settings) : Prop where
  coarse : scale.numer.toNat ≤ 400000 * scale.denom.toNat
  nonneg : 0 ≤ skew
  lt : skew < 0x8000000000000000
  advance : 1000000 ≤ settings.minOffsetAdvance.nanos

section Refresh

variable {ratio : Ratio} {skew : ℤ} {settings : Settings} {sample : BootSample}
  {s t : Simulated × List (MachineRecord Simulated)}
  (hobserves : Simulated.machine.recorded.ObservesSample s t sample)
  (hmachine : s.1.Unslept ratio.scale skew) (hsteady : Steady ratio.scale skew settings)
  (hfits : ∀ r ∈ t.2, r.Fits ratio.scale skew)

include hobserves hmachine hsteady hfits

/-- A sample of a machine that has not slept is rejected, and leaves no deeper a baseline. -/
theorem Estimate.absorb_unslept {e : Estimate} (hcommitted : e.committed = 0)
    (hbaseline : e.BaselineWithin ratio.scale skew) :
    (e.absorb ratio settings sample).1 = .unchanged ∧
      (e.absorb ratio settings sample).2.committed = 0 ∧
      (e.absorb ratio settings sample).2.BaselineWithin ratio.scale skew := by
  -- without sleep the raw estimate is the skew below zero, to a microsecond and a tick
  obtain ⟨hlow, hhigh, -⟩ :=
    raw_bounds hobserves hmachine.undisturbed hsteady.nonneg hsteady.lt hfits
  rw [hmachine.slept] at hlow hhigh
  have hraw : (-(skew / 1000 * 1000) - 1000) * ratio.scale.denom.toNat -
      ratio.scale.numer.toNat < (sample.raw ratio).toInt * ratio.scale.numer.toNat := by
    rw [UInt64.toNat_zero, Int.natCast_zero, Int.sub_mul, Int.sub_mul] at hlow
    rw [Int.sub_mul, Int.neg_mul]
    omega
  obtain ⟨-, hcandidate⟩ := hbaseline.candidate_bounds hraw hsteady.nonneg
  -- measured from the baseline, only the two roundings are left of it
  have hmicro : (e.candidateOf ratio sample).toInt * ratio.scale.numer.toNat <
      1000 * ratio.scale.denom.toNat + 2 * ratio.scale.numer.toNat := by
    rw [UInt64.toNat_zero, Int.natCast_zero, Int.sub_mul] at hhigh
    rw [Int.add_mul] at hcandidate
    omega
  -- that is below the smallest advance, in ticks
  have hmargin := e.le_marginOf ratio settings sample hsteady.advance
  have hle := le_of_lt_micro ratio.numer_pos hsteady.coarse hmicro
  have hrange := toInt_mem_range (e.candidateOf ratio sample)
  rcases e.absorb_cases ratio settings sample with ⟨habsorb, -⟩ | ⟨next, -, -, hlt⟩
  · rw [habsorb]
    exact ⟨rfl, hcommitted, hbaseline.observe hraw⟩
  · -- a commit would have to exceed the margin
    generalize 1000000 * ratio.scale.denom.toNat / ratio.scale.numer.toNat = floor at *
    omega

end Refresh

/-- A completed refresh of a machine that has not slept leaves the offset unchanged. -/
theorem Estimator.refresh_unslept {scale : Scale} {skew : ℤ} {converter : Converter}
    {settings : Settings} {s t : Simulated × List (MachineRecord Simulated)} {e e' : Estimator}
    {outcome : Except ClockError RefreshOutcome}
    (hrefresh : e.refresh Simulated.machine.recorded converter settings s = (outcome, e', t))
    (hconverter : ∀ ratio, converter = .calibrated ratio → ratio.scale = scale)
    (hmachine : s.1.Unslept scale skew) (hsteady : Steady scale skew settings)
    (hfits : ∀ r ∈ t.2, r.Fits scale skew) (h : e.Unslept scale skew) :
    e'.Unslept scale skew ∧ ∀ completed, outcome = .ok completed → completed = .unchanged := by
  rcases Estimator.refresh_cases hrefresh with
    ⟨error, counters, rfl, rfl, -⟩ | ⟨ratio, sample, counters, hratio, rfl, rfl, hobserves, -⟩
  · refine ⟨⟨h.committed, h.published, h.baseline⟩, ?_⟩
    intro completed hcompleted
    cases hcompleted
  · obtain rfl := hconverter ratio hratio
    obtain ⟨hunchanged, hcommitted, hbaseline⟩ :=
      Estimate.absorb_unslept hobserves hmachine hsteady hfits h.committed h.baseline
    rw [hunchanged]
    generalize (e.estimate.absorb ratio settings sample).2 = estimate at *
    refine ⟨⟨hcommitted, h.published, hbaseline⟩, ?_⟩
    intro completed hcompleted
    cases hcompleted
    rfl

/-! ## The clock -/

/-- A clock that has seen no sleep, with the only ratio that its machine can have told it. -/
structure Clock.Unslept (scale : Scale) (skew : ℤ) (settings : Settings) (c : Clock) : Prop where
  settings_eq : c.settings = settings
  ratio : ∀ ratio, c.ratio? = some ratio → ratio.scale = scale
  estimator : c.continuous.estimator.Unslept scale skew

section Advance

variable {scale : Scale} {skew : ℤ} {settings : Settings} {c c' : Clock}
  {s t : Simulated × List (MachineRecord Simulated)}

/-- A simulated machine tells its own scale. -/
theorem Clock.Calibrates.scale_eq {ratio? : Option Ratio}
    (h : Clock.Calibrates Simulated.machine.recorded c s ratio? t)
    (hmachine : s.1.Unslept scale skew) (hclock : c.Unslept scale skew settings) :
    ∀ ratio, ratio? = some ratio → ratio.scale = scale := by
  cases h with
  | kept hreads => exact hclock.ratio
  | @read _ told ratio _ hscale hratio =>
    -- the machine answers with its scale, or fails
    have htold : told = s.1.scale := by
      have hread := (Machine.recording_eq hscale).1
      simp only [Simulated.machine, Simulated.readScale] at hread
      split at hread
      · rw [Prod.mk.injEq] at hread
        cases hread.1
      · rw [Prod.mk.injEq] at hread
        exact (Except.ok.inj hread.1).symm
    intro ratio' hratio'
    cases hratio'
    rw [Ratio.scale_of_ofScale hratio, htold, hmachine.undisturbed.scale_eq]

/-- Advancing a clock that has seen no sleep, on a machine that has not slept, completes no estimate
but one that leaves the offset unchanged. -/
theorem Clock.Advanced.unslept {outcome? : Option (Except ClockError RefreshOutcome)}
    (h : Clock.Advanced Simulated.machine.recorded c s outcome? c' t)
    (hmachine : s.1.Unslept scale skew) (hsteady : Steady scale skew settings)
    (hfits : ∀ r ∈ t.2, r.Fits scale skew) (hclock : c.Unslept scale skew settings) :
    c'.Unslept scale skew settings ∧
      ∀ completed, .ok completed ∈ outcome?.toList → completed = .unchanged := by
  cases h with
  | @intro u _ ratio? continuous _ hcalibrates hprepared =>
    have hratio := hcalibrates.scale_eq hmachine hclock
    have hmachine' := hmachine.reads hcalibrates.reads.of_recorded
    have hconverter : ∀ ratio, Converter.ofRatio? ratio? = .calibrated ratio →
        ratio.scale = scale := by
      intro ratio hofRatio
      cases ratio? with
      | none => cases hofRatio
      | some known =>
        cases hofRatio
        exact hratio _ rfl
    rw [hclock.settings_eq] at hprepared
    cases hprepared with
    | idle hreads =>
      refine ⟨⟨hclock.settings_eq, hratio, hclock.estimator⟩, ?_⟩
      intro completed hmem
      cases hmem
    | attempted hreads hrefresh =>
      -- the attempt is made on the machine that calibrating and preparing have read
      obtain ⟨hestimator, hcompleted⟩ := Estimator.refresh_unslept hrefresh hconverter
        (hmachine'.reads hreads.of_recorded) hsteady hfits hclock.estimator
      refine ⟨⟨hclock.settings_eq, hratio, hestimator⟩, ?_⟩
      intro completed hmem
      exact hcompleted completed (List.mem_singleton.mp hmem).symm

end Advance

/-! ## Runs -/

/-- The step lets no time asleep pass and does not set the wall clock. -/
def ClockStep.staysAwake : ClockStep SimulatedAction → Bool
  | .environment action => action.staysAwake
  | .setTime .realtime _ => false
  | _ => true

namespace ClockRun

/-- A run that has seen no sleep: neither has the machine slept, nor the clock noticed anything. -/
structure Unslept (scale : Scale) (skew : ℤ) (settings : Settings)
    (run : ClockRun (Simulated × List (MachineRecord Simulated))) : Prop where
  machine : run.state.1.Unslept scale skew
  clock : run.clock.Unslept scale skew settings
  attempts : ∀ completed, .ok completed ∈ run.attempts → completed = .unchanged

variable {scale : Scale} {skew : ℤ} {settings : Settings}
  {run : ClockRun (Simulated × List (MachineRecord Simulated))}

/-- An operation that advances the clock and then reads the machine has seen no sleep. -/
theorem Unslept.advance {c : Clock} {t u : Simulated × List (MachineRecord Simulated)}
    {outcome? : Option (Except ClockError RefreshOutcome)} (h : Unslept scale skew settings run)
    (hsteady : Steady scale skew settings)
    (hadvanced : Clock.Advanced Simulated.machine.recorded run.clock run.state outcome? c t)
    (hreads : Simulated.machine.recorded.Reads t u) (hfits : ∀ r ∈ u.2, r.Fits scale skew)
    (answers : List ClockAnswer) :
    Unslept scale skew settings ⟨c, u, answers, outcome?.toList ++ run.attempts⟩ := by
  obtain ⟨hclock, hcompleted⟩ := hadvanced.unslept h.machine hsteady
    (fun r hr => hfits r (hreads.suffix.subset hr)) h.clock
  refine ⟨h.machine.reads (hadvanced.reads.trans hreads).of_recorded, hclock, ?_⟩
  intro completed hmem
  rcases List.mem_append.mp hmem with hmem | hmem
  · exact hcompleted completed hmem
  · exact h.attempts completed hmem

/-- A step that stays awake has seen no sleep. -/
theorem Change.unslept {step : ClockStep SimulatedAction}
    {run' : ClockRun (Simulated × List (MachineRecord Simulated))}
    (hchange : Change Simulated.machine.recorded (Machine.besideRecord Simulated.act) step run run')
    (hawake : step.staysAwake) (hsteady : Steady scale skew settings)
    (hfits : ∀ r ∈ run'.state.2, r.Fits scale skew) (h : Unslept scale skew settings run) :
    Unslept scale skew settings run' := by
  cases hchange with
  | environment action =>
    exact ⟨h.machine.act hawake, h.clock, h.attempts⟩
  | invalidated =>
    obtain ⟨hsettings, hratio, hestimator⟩ := h.clock
    refine ⟨h.machine, ⟨hsettings, hratio, ?_⟩, h.attempts⟩
    exact ⟨hestimator.committed, hestimator.published, hestimator.baseline⟩
  | @timeSet id time _ answer t hset =>
    have ht : t = run.state := by
      -- only the wall clock can be set
      have hid : id ≠ .realtime := by
        rintro rfl
        cases hawake
      rw [Clock.setTime, if_neg hid] at hset
      cases hset
      rfl
    subst ht
    exact ⟨h.machine, h.clock, h.attempts⟩
  | other hadvanced hreads => exact h.advance hsteady hadvanced hreads hfits _
  | monotonic hadvanced hticks => exact h.advance hsteady hadvanced (.of_ticks hticks) hfits _
  | continuous hadvanced hticks => exact h.advance hsteady hadvanced (.of_ticks hticks) hfits _
  | approx hadvanced hticks => exact h.advance hsteady hadvanced (.of_approxTicks hticks) hfits _

/-- Building a clock on a machine that has not slept sees no sleep. -/
theorem start_unslept {s : Simulated} (hmachine : s.Unslept scale skew)
    (hsteady : Steady scale skew settings)
    (hfits : ∀ r ∈ (start Simulated.machine.recorded settings (s, [])).state.2,
      r.Fits scale skew) :
    Unslept scale skew settings (start Simulated.machine.recorded settings (s, [])) := by
  obtain ⟨outcome?, hadvanced, hattempts⟩ :=
    start_advanced Simulated.machine.recorded settings (s, [])
  have hnew : Clock.Unslept scale skew settings ⟨settings, none, .new settings⟩ := by
    refine ⟨rfl, ?_, rfl, rfl, ?_⟩
    · intro ratio hratio
      cases hratio
    · intro b hb
      cases hb
  obtain ⟨hclock, hcompleted⟩ := hadvanced.unslept hmachine hsteady hfits hnew
  refine ⟨hmachine.reads hadvanced.reads.of_recorded, hclock, ?_⟩
  rw [hattempts]
  exact hcompleted

/-- Runs that stay awake see no sleep. -/
theorem run_unslept {s : Simulated} {steps : List (ClockStep SimulatedAction)}
    (hmachine : s.Unslept scale skew) (hsteady : Steady scale skew settings)
    (hawake : ∀ step ∈ steps, step.staysAwake)
    (hfits : ∀ r ∈ record Simulated.machine Simulated.act settings s steps, r.Fits scale skew) :
    Unslept scale skew settings ((start Simulated.machine.recorded settings (s, [])).run
      Simulated.machine.recorded (Machine.besideRecord Simulated.act) steps) := by
  refine run_keeps_recorded (P := fun records => ∀ r ∈ records, r.Fits scale skew) ?_ ?_
    (start_unslept hmachine hsteady) hfits
  · intro older records hsuffix hfits' r hr
    exact hfits' r (hsuffix.subset hr)
  · intro step hstep run run' hchange hfits' hunslept
    exact hchange.unslept (hawake step hstep) hsteady hfits' hunslept

/-- The run of a clock on a simulated machine. -/
def simulated (settings : Settings) (s : Simulated) (steps : List (ClockStep SimulatedAction)) :
    ClockRun Simulated :=
  (start Simulated.machine settings s).run Simulated.machine Simulated.act steps

/-- No refresh of a run completed but without a change, and nothing is committed or published. -/
structure NoSleepSeen (run : ClockRun σ) : Prop where
  attempts : ∀ completed, .ok completed ∈ run.attempts → completed = .unchanged
  committed : run.clock.continuous.estimator.estimate.committed = 0
  published : run.clock.continuous.estimator.published = 0

/-- On a machine that does not sleep no sleep is ever seen. The boot time may be off by any skew
that is set before the clock is built; what is asked is that ticks are not too coarse for the
smallest advance, and that times stay in range. -/
theorem no_phantom_sleep (scale : Scale) (skew : Int64) (settings : Settings)
    (before : List SimulatedAction) (steps : List (ClockStep SimulatedAction))
    (hnumer : 0 < scale.numer.toNat) (hdenom : 0 < scale.denom.toNat)
    (hcoarse : scale.numer.toNat ≤ 400000 * scale.denom.toNat) (hskew : 0 ≤ skew.toInt)
    (hadvance : 1000000 ≤ settings.minOffsetAdvance.nanos)
    (hbefore : ∀ action ∈ before, action.staysAwake) (hsteps : ∀ step ∈ steps, step.staysAwake)
    (hnanos : (skew.toInt : ℚ) < 2 ^ 62)
    (hticks : (skew.toInt : ℚ) * scale.denom.toNat / scale.numer.toNat < 2 ^ 62)
    (hrange : ∀ r ∈ record Simulated.machine Simulated.act settings (.skewed scale skew before)
      steps, r.InRange scale (2 ^ 62) (2 ^ 62)) :
    NoSleepSeen (simulated settings (.skewed scale skew before) steps) := by
  have hsteady : Steady scale skew.toInt settings := by
    refine ⟨hcoarse, hskew, ?_, hadvance⟩
    norm_num at hnanos
    have : skew.toInt < 4611686018427387904 := by exact_mod_cast hnanos
    omega
  have hunslept := run_unslept (Simulated.unslept_skewed scale skew hbefore) hsteady hsteps
    fun r hr => (hrange r hr).fits_skewed hnumer hdenom hticks
  have hagrees := run_recorded Simulated.machine Simulated.act settings (.skewed scale skew before)
    steps
  have hcompleted := hunslept.attempts
  have hestimator := hunslept.clock.estimator
  rw [hagrees.attempts] at hcompleted
  rw [hagrees.clock] at hestimator
  exact ⟨hcompleted, hestimator.committed, hestimator.published⟩

/-- A clock is refreshed, refreshed with the wall clock frozen, and read half a second later. -/
def awakeSteps : List (ClockStep SimulatedAction) :=
  [.refreshOffset, .environment (.freezeWall true), .refreshOffset,
    .environment (.freezeWall false), .environment (.advance (.ofNanos 500000000)),
    .invalidateOffset, .nanos .monotonic]

/-- The run of `awakeSteps` on a 24 MHz machine that reports its boot time five seconds late. Three
refreshes complete, that of building the clock among them, and the machine is up for less than its
skew at all of them. -/
theorem awakeSteps_noSleepSeen :
    (simulated .brief (.skewed .megahertz24 5000000000 [.setStep 100]) awakeSteps).attempts =
        [.ok .unchanged, .error (.samplingExhausted 2), .ok .unchanged, .ok .unchanged] ∧
      NoSleepSeen
        (simulated .brief (.skewed .megahertz24 5000000000 [.setStep 100]) awakeSteps) := by
  refine ⟨by decide +kernel, ?_⟩
  exact no_phantom_sleep .megahertz24 5000000000 .brief [.setStep 100] awakeSteps (by decide)
    (by decide) (by decide) (by decide) (by decide) (by decide) (by decide) (by decide +kernel)
    (by decide +kernel) (by decide +kernel)

end ClockRun

end SoftClock
