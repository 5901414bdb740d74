import SoftClock.Machine.Scripted
import SoftClock.Machine.Simulated
import SoftClock.Proofs.Continuous.Consistency
import SoftClock.Proofs.Continuous.Journal
import SoftClock.Proofs.Offset.Staleness

/-!
# When a Read Estimates Anew

A continuous read makes one attempt to estimate the offset if there is no valid estimate, or if the
wall clock shows that the last completed one is stale. Otherwise it makes none.

* `Continuous.Due` says when an attempt is due, and `Continuous.ageCheck` which call it takes to
  find out: one read of the wall clock, if there is a valid estimate and it can become stale.
* `Continuous.ReadsWhenDue` is the case analysis of a read, with the calls that it makes.
* `Estimator.Stamped` is the invariant that ties the stamp of an estimator to its journal. Refreshes
  keep it, so it holds of every run (`ContinuousRun.run_stamped`).
* `ContinuousRun.run_recalibrates` is the main result, for every state that a run leads to: what is
  due is decided by the settings of the count and the wall time of the newest completed estimate.
* A wall clock that was set back should read as fresh. It does while its whole seconds fit the
  signed words as microseconds. `ContinuousRun.setBackRun_stale` shows what happens where they do
  not: they are clamped before the microseconds are added, and the earlier reading counts as later.
-/

namespace SoftClock

variable {σ τ ε : Type}

/-! ## The stamp -/

namespace Estimator

@[simp]
theorem complete_attempts (e : Estimator) (outcome : RefreshOutcome) (estimate : Estimate)
    (counters : Counters) (wall : Timeval) :
    (e.complete outcome estimate counters wall).counters.attempts = counters.attempts := by
  cases outcome <;> rfl

/-- A refresh is one attempt, however it ends. -/
theorem refresh_attempts {m : Machine σ} {converter : Converter} {settings : Settings}
    {e e' : Estimator} {s t : σ} {answer : Except ClockError RefreshOutcome}
    (h : e.refresh m converter settings s = (answer, e', t)) :
    e'.counters.attempts = e.counters.attempts + 1 := by
  cases converter with
  | degraded =>
    rw [refresh, Prod.mk.injEq, Prod.mk.injEq] at h
    obtain ⟨-, rfl, -⟩ := h
    rfl
  | calibrated ratio =>
    cases refresh_calibrated h with
    | failed hsample =>
      obtain ⟨restarts, -, hsampled⟩ := takeSample_gathered hsample
      rw [Counters.recordFailure]
      split <;> exact hsampled.attempts
    | absorbed hsample =>
      obtain ⟨restarts, -, hsampled⟩ := takeSample_gathered hsample
      rw [complete_attempts]
      exact hsampled.attempts

/-- An estimator has completed the estimates of a journal, and carries the wall time of the newest
one. -/
structure Stamped (journal : List Completion) (e : Estimator) : Prop where
  /-- No estimate is valid before the first one has completed. -/
  completed : e.valid → journal ≠ []
  stamp : ∀ newest older, journal = newest :: older → e.validatedAt = newest.sample.pair.wall.micros

/-- A new estimator has completed nothing. -/
theorem Stamped.new : Stamped [] .new where
  completed := Bool.false_ne_true.elim
  stamp _ _ hnil := (List.cons_ne_nil _ _ hnil.symm).elim

/-- An invalidation leaves the stamp. -/
theorem Stamped.invalidate {journal : List Completion} {e : Estimator} (h : Stamped journal e) :
    Stamped journal e.invalidate where
  completed := Bool.false_ne_true.elim
  stamp := h.stamp

/-- A refresh that completes sets the stamp, and no other refresh does. -/
theorem refresh_keepsStamp (m : Machine σ) : RefreshKeeps m Stamped := by
  intro journal e h converter settings s
  cases converter with
  | degraded => exact ⟨h.completed, h.stamp⟩
  | calibrated ratio =>
    rcases hsample : takeSample m settings e.counters.recordAttempt s with ⟨answer, counters, t⟩
    cases answer with
    | error error =>
      -- a failure is counted, and neither the flag nor the stamp is touched
      simp only [completion?, refresh, hsample]
      exact ⟨h.completed, h.stamp⟩
    | ok sample =>
      -- the sample is the newest one of the journal, and its wall time is the stamp
      simp only [completion?, refresh, hsample, Option.toList_some, List.singleton_append]
      refine ⟨fun _ => List.cons_ne_nil _ _, fun newest older hnewest => ?_⟩
      rw [List.cons.injEq] at hnewest
      rw [← hnewest.1]
      rfl

end Estimator

namespace Continuous

/-! ## What is due -/

section Due

variable (n : Machine τ) (c : Continuous) (t : τ)

/-- An attempt is due: no estimate is valid, or the wall clock can be read and shows that the last
completed estimate is stale. -/
def Due : Prop :=
  c.estimator.valid = false ∨
    ∃ interval now, c.interval = some interval ∧ (n.wall t).1 = .ok now ∧
      c.estimator.isStale now interval

/-- The state of the machine and the record of its calls once the age of the estimate is known. The
wall clock is read if there is a valid estimate that can become stale. -/
def ageCheck : τ × List (MachineRecord τ) :=
  if c.estimator.valid ∧ c.interval.isSome then
    ((n.wall t).2, [⟨t, .wall (n.wall t).1⟩])
  else (t, [])

/-- Whether to estimate first is asked with the calls of the age check, and answered by what is
due. -/
theorem needsRefresh_recorded :
    c.Due n t ∧ c.needsRefresh n.recorded (t, []) = (true, c.ageCheck n t) ∨
      ¬ c.Due n t ∧ c.needsRefresh n.recorded (t, []) = (false, c.ageCheck n t) := by
  rw [needsRefresh, Due, ageCheck]
  cases c.estimator.valid with
  | false =>
    -- the wall clock is not asked
    exact .inl ⟨.inl rfl, rfl⟩
  | true =>
    cases c.interval with
    | none =>
      -- nor is it for an estimate that never becomes stale
      right
      simp
    | some interval =>
      simp only [Machine.recorded, Machine.noted, Machine.noting]
      rcases n.wall t with ⟨answer, u⟩
      cases answer with
      | error error =>
        -- a failed read makes nothing stale
        right
        simp
      | ok now =>
        by_cases hstale : c.estimator.isStale now interval = true
        · left
          simp [hstale]
        · right
          simp [hstale]

/-- What is due is what a read asks for. -/
theorem due_iff_needsRefresh :
    c.Due n t ↔ (c.needsRefresh n.recorded (t, [])).1 = true := by
  rcases needsRefresh_recorded n c t with ⟨hdue, hneeds⟩ | ⟨hdue, hneeds⟩
  · simp [hdue, hneeds]
  · simp [hdue, hneeds]

instance : Decidable (c.Due n t) := decidable_of_iff _ (due_iff_needsRefresh n c t).symm

end Due

/-! ## One read -/

/-- The outcome of a read whose last call goes to a counter: the counter plus the committed offset,
with the note of the call in front of the record. -/
def countFrom (source : Source τ UInt64) (c : Continuous) (u : τ × List (MachineRecord τ)) :
    UInt64 × Continuous × τ × List (MachineRecord τ) :=
  ((source.read u.1).1 + c.estimator.estimate.committed, c, (source.read u.1).2,
    source.note u.1 :: u.2)

/-- How a read of a continuous count by one counter comes out, and which calls it makes. -/
structure ReadsWhenDue (n : Machine τ) (source : Source τ UInt64) (converter : Converter)
    (settings : Settings) (c : Continuous) (t : τ)
    (outcome : UInt64 × Continuous × τ × List (MachineRecord τ)) : Prop where
  /-- In fallback mode one call is made, and its answer is the count. -/
  fallback : c.mode = .rawFallback →
    outcome = ((source.read t).1, c, (source.read t).2, [source.note t])
  /-- What is due is one attempt, which is made between the age check and the counter read. -/
  due : c.mode ≠ .rawFallback → c.Due n t →
    ∃ answer e u,
      c.estimator.refresh n.recorded converter settings (c.ageCheck n t) = (answer, e, u) ∧
      e.counters.attempts = c.estimator.counters.attempts + 1 ∧
      outcome = countFrom source { c with estimator := e } u
  /-- No attempt is made that is not due, and the count stays as it is. -/
  notDue : c.mode ≠ .rawFallback → ¬ c.Due n t → outcome = countFrom source c (c.ageCheck n t)

variable {n : Machine τ} {c : Continuous}

/-- What is published is what is committed, so that is what a read adds. -/
theorem countFrom_published {source : Source τ UInt64}
    (hpublished : c.estimator.published = c.estimator.estimate.committed)
    (u : τ × List (MachineRecord τ)) :
    ((Machine.recording source.event source.read u).1 + c.estimator.published, c,
      (Machine.recording source.event source.read u).2) = countFrom source c u := by
  rw [hpublished]
  rfl

/-- A read of a count that agrees with its history attempts what is due. -/
theorem readWith_readsWhenDue {history : List EstimatorEvent}
    (htracks : c.estimator.Tracks history) (source : Source τ UInt64) (converter : Converter)
    (settings : Settings) (t : τ) :
    c.ReadsWhenDue n source converter settings t
      (c.readWith (Machine.recording source.event source.read) n.recorded converter settings
        (t, [])) := by
  refine ⟨fun hmode => ?_, fun hmode hdue => ?_, fun hmode hdue => ?_⟩
  · rw [readWith, hmode]
    rfl
  · -- the attempt starts where the age check ends, and the counter is read where it ends
    rcases c.needsRefresh_recorded n t with ⟨-, hneeds⟩ | ⟨hnotDue, -⟩
    · rcases hrefresh : c.estimator.refresh n.recorded converter settings (c.ageCheck n t) with
        ⟨answer, e, u⟩
      refine ⟨answer, e, u, rfl, Estimator.refresh_attempts hrefresh, ?_⟩
      rw [readWith_of_ne_rawFallback hmode, prepare, hneeds]
      simp only [refresh, hrefresh]
      exact countFrom_published (c := { c with estimator := e })
        (htracks.refresh hrefresh).published_eq u
    · contradiction
  · rcases c.needsRefresh_recorded n t with ⟨hisDue, -⟩ | ⟨-, hneeds⟩
    · contradiction
    · rw [readWith_of_ne_rawFallback hmode, prepare, hneeds]
      exact countFrom_published htracks.published_eq _

/-! ## Every state of a run -/

/-- A count attempts what its settings and the estimates that it has completed make due, on whatever
machine it is read. -/
structure Recalibrates (configured : Settings) (done : List Completion) (c : Continuous) :
    Prop where
  /-- Mode and interval are those that the count was made with. -/
  mode : c.mode = configured.continuousMode.resolve
  interval : c.interval = configured.recalibrateInterval
  /-- A valid estimate has completed. -/
  completed : c.estimator.valid → done ≠ []
  /-- Age is counted from the wall time of the newest completed estimate. -/
  ages : ∀ newest older, done = newest :: older → c.estimator.AgesFrom newest.sample.pair.wall
  ticks : ∀ {τ : Type} (n : Machine τ) (converter : Converter) (settings : Settings) (t : τ),
    c.ReadsWhenDue n n.preciseSource converter settings t
      (c.ticks n.recorded converter settings (t, []))
  approxTicks : ∀ {τ : Type} (n : Machine τ) (converter : Converter) (settings : Settings) (t : τ),
    c.ReadsWhenDue n n.approxSource converter settings t
      (c.approxTicks n.recorded converter settings (t, []))

end Continuous

namespace ContinuousRun

/-- No change touches the mode or the interval. -/
theorem run_configured (m : Machine σ) (act : ε → σ → σ) (settings : Settings) (s : σ)
    (steps : List (ContinuousStep ε)) :
    ((start settings s).run m act steps).count.mode = settings.continuousMode.resolve ∧
      ((start settings s).run m act steps).count.interval = settings.recalibrateInterval := by
  refine run_keeps (P := fun run => run.count.mode = settings.continuousMode.resolve ∧
    run.count.interval = settings.recalibrateInterval) ?_ ⟨rfl, rfl⟩
  intro step _ run run' hchange h
  cases hchange with
  | environment action => exact h
  | invalidated => exact h
  | idle hreads => exact h
  | refreshed hconverter hbefore hrefresh hafter => exact h

/-- In every state of a run the stamp is that of the newest estimate that completed in it. -/
theorem run_stamped (m : Machine σ) (act : ε → σ → σ) (settings : Settings) (s : σ)
    (steps : List (ContinuousStep ε)) :
    ((start settings s).run m act steps).count.estimator.Stamped
      ((start settings s).completions m act steps) := by
  exact run_keepsJournal (Estimator.refresh_keepsStamp m) (fun _ _ h => h.invalidate) .new settings
    s steps

/-- In every state of every run, a read by either counter makes one attempt if that is due, and none
otherwise. -/
theorem run_recalibrates (m : Machine σ) (act : ε → σ → σ) (settings : Settings) (s : σ)
    (steps : List (ContinuousStep ε)) :
    ((start settings s).run m act steps).count.Recalibrates settings
      ((start settings s).completions m act steps) := by
  have hstamped := run_stamped m act settings s steps
  have htracks := run_tracks m act settings s steps
  obtain ⟨hmode, hinterval⟩ := run_configured m act settings s steps
  refine
    { mode := hmode
      interval := hinterval
      completed := hstamped.completed
      ages := fun newest older hdone =>
        Estimator.agesFrom_of_stamp (hstamped.stamp newest older hdone)
      ticks := fun n converter settings t =>
        Continuous.readWith_readsWhenDue htracks n.preciseSource converter settings t
      approxTicks := fun n converter settings t => ?_ }
  rw [Continuous.approxTicks, n.recorded_approxSource]
  exact Continuous.readWith_readsWhenDue htracks n.approxSource converter settings t

/-- Estimates are stale after a millisecond. -/
def agingSettings : Settings := { Settings.brief with recalibrateInterval := some .millisecond }

/-- An estimate on a machine that takes a microsecond to be read. -/
def agingSteps : List (ContinuousStep (Simulated → Simulated)) :=
  [.environment (Simulated.setStep 1000), .refresh (.calibrated .identity) agingSettings]

/-- The run of `agingSteps` on a simulated machine whose ticks are nanoseconds. -/
def agingRun : ContinuousRun Simulated :=
  (start agingSettings (.withScale .identity)).run Simulated.machine id agingSteps

/-- Right after the estimate no attempt is due, and none is made. After ten milliseconds of sleep
one is due, and it is made. -/
theorem agingRun_recalibrates :
    (agingRun.count.ticks Simulated.machine.recorded (.calibrated .identity) agingSettings
        (agingRun.state, [])).2.1 = agingRun.count ∧
      (agingRun.count.ticks Simulated.machine.recorded (.calibrated .identity) agingSettings
          (agingRun.state.sleep (.ofNanos 10000000), [])).2.1.estimator.counters.attempts =
        agingRun.count.estimator.counters.attempts + 1 := by
  have hreads : agingRun.count.Recalibrates agingSettings _ :=
    run_recalibrates Simulated.machine id agingSettings (.withScale .identity) agingSteps
  have hmode : agingRun.count.mode ≠ .rawFallback := by decide +kernel
  have hfresh : ¬ agingRun.count.Due Simulated.machine agingRun.state := by decide +kernel
  have hdue : agingRun.count.Due Simulated.machine (agingRun.state.sleep (.ofNanos 10000000)) := by
    decide +kernel
  constructor
  · have hread := (hreads.ticks Simulated.machine (.calibrated .identity) agingSettings _).notDue
      hmode hfresh
    rw [hread]
    rfl
  · obtain ⟨answer, e, u, -, hattempts, hread⟩ :=
      (hreads.ticks Simulated.machine (.calibrated .identity) agingSettings _).due hmode hdue
    rw [hread]
    exact hattempts

/-! ## A wall clock that is set back -/

/-- The wall time of an estimate, which is near the least number of microseconds. -/
def estimateWall : Timeval := ⟨-9223372036854, 0⟩

/-- The wall time a microsecond earlier. -/
def setBackWall : Timeval := ⟨-9223372036855, 999999⟩

/-- A wall clock that is set back by a microsecond after an estimate. -/
def setBackScript : Script where
  boot := [.ok estimateWall]
  wall := [.ok ⟨-9223372036854, 1⟩, .ok estimateWall, .ok setBackWall]
  ticks := [0]

/-- Estimates are stale after a tenth of a second. -/
def setBackSettings : Settings :=
  { Settings.brief with recalibrateInterval := some (.ofNanos 100000000) }

/-- The estimate before the wall clock is set back. -/
def setBackSteps : List (ContinuousStep Unit) := [.refresh (.calibrated .identity) setBackSettings]

/-- The run up to the moment at which the wall clock shows the earlier time. -/
def setBackRun : ContinuousRun Script :=
  (start setBackSettings setBackScript).run (Script.machine false) (fun _ => id) setBackSteps

/-- The reading is a microsecond before the estimate, so it should be fresh. Its whole seconds are
clamped before its microseconds are added, which makes it count as later than the estimate by more
than the interval. So the estimate is stale, and a read attempts another one. -/
theorem setBackRun_stale :
    setBackRun.count.mode = .sleepAware ∧ setBackRun.count.estimator.valid ∧
      setBackRun.count.interval = some (.ofNanos 100000000) ∧
      ((start setBackSettings setBackScript).completions (Script.machine false) (fun _ => id)
        setBackSteps).map (·.sample.pair.wall) = [estimateWall] ∧
      ((Script.machine false).wall setBackRun.state).1 = .ok setBackWall ∧
      estimateWall.FitsMicros ∧ setBackWall.FitsMicros ∧
      setBackWall.exactMicros = estimateWall.exactMicros - 1 ∧
      setBackRun.count.estimator.isStale setBackWall (.ofNanos 100000000) ∧
      (setBackRun.count.ticks (Script.machine false) (.calibrated .identity) setBackSettings
          setBackRun.state).2.1.estimator.counters.attempts =
        setBackRun.count.estimator.counters.attempts + 1 := by
  decide +kernel

end ContinuousRun

end SoftClock
