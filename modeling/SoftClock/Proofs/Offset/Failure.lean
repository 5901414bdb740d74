import SoftClock.Machine.Scripted
import SoftClock.Proofs.Machine.Recorded
import SoftClock.Proofs.Offset.Refresh
import SoftClock.Proofs.Timebase.Conversion

/-!
# How an Estimate Fails

A refresh can fail at any read of its nested loops, after pairs were completed and runs were started
over. Wherever it does, it leaves what is known about the time asleep as it was.

* `Machine.Fails` says that a read of the wall clock or of the boot time gave an error and was the
  last call. Sampling fails in this way, or because a bounded loop ran out (`takeSample_error`).
* `Estimator.Abandons` says what an abandoned attempt does to an estimator: only counters move.
* `Estimator.FailureCause` tells, by the calls that were made, where the error came from.
* `Estimator.refresh_abandons` puts this together for every machine, converter and settings.
-/

namespace SoftClock

variable {σ : Type} {m : Machine σ}

/-! ## Where sampling fails -/

/-- Between two states of a machine sampling came to a read that gave an error, and stopped there.
-/
inductive Machine.Fails (m : Machine σ) (s t : σ) (error : ClockError) : Prop
  | wall {u : σ} : m.Reads s u → m.wall u = (.error error, t) → m.Fails s t error
  | boot {u : σ} : m.Reads s u → m.boot u = (.error error, t) → m.Fails s t error

/-- A failure after more reads. -/
theorem Machine.Fails.after {s s' t : σ} {error : ClockError} (hs : m.Reads s' s)
    (h : m.Fails s t error) : m.Fails s' t error := by
  cases h with
  | wall hreads hwall => exact .wall (hs.trans hreads) hwall
  | boot hreads hboot => exact .boot (hs.trans hreads) hboot

/-- Polling fails at a read of the wall clock, or runs out of polls. -/
theorem awaitChange_error {allowed : UInt32} {start : Timeval} {polls : ℕ} {s t : σ}
    {error : ClockError} (h : awaitChange m allowed start polls s = (.error error, t)) :
    m.Fails s t error ∨ error = .samplingExhausted allowed := by
  induction polls generalizing s with
  | zero =>
    cases h
    exact .inr rfl
  | succ polls ih =>
    cases awaitChange_succ h with
    | unreadable hbefore hwall => exact .inl (.wall (.of_ticks hbefore) hwall)
    | idle hbefore hwall hafter hrest =>
      -- a later poll fails
      exact (ih hrest).imp_left (.after (.of_poll hbefore hwall hafter))

theorem pairOnce_error {allowed : UInt32} {s t : σ} {error : ClockError}
    (h : pairOnce m allowed s = (.error error, t)) :
    m.Fails s t error ∨ error = .samplingExhausted allowed := by
  obtain ⟨_, hstart, hanswer⟩ | ⟨start, b, hstart, hpolls⟩ := pairOnce_cases h
  · cases hanswer
    exact .inl (.wall (.refl s) hstart)
  · exact (awaitChange_error hpolls).imp_left (.after (.of_wall hstart))

theorem improvePair_error {allowed : UInt32} {more : ℕ} {best : PairedSample} {c c' : Counters}
    {s t : σ} {error : ClockError}
    (h : improvePair m allowed more best c s = (.error error, c', t)) :
    m.Fails s t error ∨ error = .samplingExhausted allowed := by
  induction more generalizing best c s with
  | zero => cases h
  | succ more ih =>
    obtain ⟨_, hpair, hanswer, -⟩ | ⟨pair, u, hpair, hmore⟩ := improvePair_succ h
    · cases hanswer
      exact pairOnce_error hpair
    · exact (ih hmore).imp_left (.after (pairOnce_reads hpair))

theorem bestPair_error {settings : Settings} {c c' : Counters} {s t : σ} {error : ClockError}
    (h : bestPair m settings c s = (.error error, c', t)) :
    m.Fails s t error ∨ error = .samplingExhausted settings.maxWallPolls := by
  obtain ⟨_, hpair, hanswer, -⟩ | ⟨pair, u, hpair, hmore⟩ := bestPair_cases h
  · cases hanswer
    exact pairOnce_error hpair
  · exact (improvePair_error hmore).imp_left (.after (pairOnce_reads hpair))

/-- Sampling fails at a read of the wall clock or of the boot time, or it runs out of polls or of
restarts. -/
theorem sampleRuns_error {settings : Settings} {runs : ℕ} {c c' : Counters} {s t : σ}
    {error : ClockError} (h : sampleRuns m settings runs c s = (.error error, c', t)) :
    m.Fails s t error ∨ error = .samplingExhausted settings.maxWallPolls ∨
      error = .samplingExhausted (settings.maxBootRestarts + 1) := by
  induction runs generalizing c s with
  | zero =>
    cases h
    exact .inr (.inr rfl)
  | succ runs ih =>
    cases sampleRuns_succ h with
    | unreadable hboot => exact .inl (.boot (.refl s) hboot)
    | unpaired hboot hpair => exact (bestPair_error hpair).imp (.after (.of_boot hboot)) .inl
    | unconfirmed hboot hpair hagain =>
      exact .inl (.boot ((Machine.Reads.of_boot hboot).trans (bestPair_reads hpair)) hagain)
    | moved hboot hpair hagain _ hrest =>
      -- a later run fails
      have hrun : m.Reads s _ :=
        ((Machine.Reads.of_boot hboot).trans (bestPair_reads hpair)).trans (.of_boot hagain)
      exact (ih hrest).imp_left (.after hrun)

theorem takeSample_error {settings : Settings} {c c' : Counters} {s t : σ} {error : ClockError}
    (h : takeSample m settings c s = (.error error, c', t)) :
    m.Fails s t error ∨ error = .samplingExhausted settings.maxWallPolls ∨
      error = .samplingExhausted (settings.maxBootRestarts + 1) :=
  sampleRuns_error h

/-! ## What a failed refresh leaves alone -/

theorem ClockError.isExhaustion_iff {error : ClockError} :
    error.isExhaustion = true ↔ ∃ attempts, error = .samplingExhausted attempts := by
  cases error <;> simp [isExhaustion]

namespace Estimator

/-- An attempt was abandoned with an error: of the estimator only the counters have moved. Counters
are machine words, so "one more" wraps around like them. -/
structure Abandons (settings : Settings) (error : ClockError) (e e' : Estimator) : Prop where
  /-- The committed offset, the raw value, the baseline and the wall time drift counts from. -/
  estimate : e'.estimate = e.estimate
  published : e'.published = e.published
  valid : e'.valid = e.valid
  validatedAt : e'.validatedAt = e.validatedAt
  attempts : e'.counters.attempts = e.counters.attempts + 1
  /-- A loop that ran out is counted as such, and as nothing else. -/
  exhausted : (∃ limit, error = .samplingExhausted limit) →
    e'.counters.exhausted = e.counters.exhausted + 1 ∧
      e'.counters.readFailures = e.counters.readFailures
  /-- Every other error is counted as a failed read, and as nothing else. -/
  readFailures : (¬ ∃ limit, error = .samplingExhausted limit) →
    e'.counters.readFailures = e.counters.readFailures + 1 ∧
      e'.counters.exhausted = e.counters.exhausted
  commits : e'.counters.commits = e.counters.commits
  rejections : e'.counters.rejections = e.counters.rejections
  /-- Restarts are added, one more than allowed at most. -/
  bootRestarts : ∃ restarts ≤ settings.maxBootRestarts.toNat + 1,
    e'.counters.bootRestarts = e.counters.bootRestarts + .ofNat restarts ∧
      (e.counters.bootRestarts.toNat + restarts < UInt64.size →
        e'.counters.bootRestarts.toNat = e.counters.bootRestarts.toNat + restarts)
  /-- The best bracket is kept or replaced by a tighter one. -/
  bestBracket : ∀ best, e.counters.bestBracket = some best →
    ∃ best', e'.counters.bestBracket = some best' ∧ best' ≤ best

/-- Counting a failure after sampling abandons an attempt. -/
theorem Abandons.of_gathered {settings : Settings} {e : Estimator} {counters : Counters}
    {restarts : ℕ} (hle : restarts ≤ settings.maxBootRestarts.toNat + 1)
    (h : e.counters.recordAttempt.Gathered restarts counters) (error : ClockError) :
    Abandons settings error e { e with counters := counters.recordFailure error } := by
  have hfailure : (counters.recordFailure error).attempts = counters.attempts ∧
      (counters.recordFailure error).commits = counters.commits ∧
      (counters.recordFailure error).rejections = counters.rejections ∧
      (counters.recordFailure error).bootRestarts = counters.bootRestarts ∧
      (counters.recordFailure error).bestBracket = counters.bestBracket := by
    rw [Counters.recordFailure]
    split <;> exact ⟨rfl, rfl, rfl, rfl, rfl⟩
  obtain ⟨hattempts, hcommits, hrejections, hrestarts, hbracket⟩ := hfailure
  refine
    { estimate := rfl
      published := rfl
      valid := rfl
      validatedAt := rfl
      attempts := hattempts.trans h.attempts
      exhausted := fun hran => ?_
      readFailures := fun hread => ?_
      commits := hcommits.trans h.commits
      rejections := hrejections.trans h.rejections
      bootRestarts := ⟨restarts, hle, hrestarts.trans h.bootRestarts, fun hroom => ?_⟩
      bestBracket := fun best hbest => ?_ }
  · have hexhaustion := ClockError.isExhaustion_iff.mpr hran
    simp only [Counters.recordFailure, hexhaustion, if_true, Counters.recordExhausted]
    exact ⟨congrArg (· + 1) h.exhausted, h.readFailures⟩
  · have hexhaustion := mt ClockError.isExhaustion_iff.mp hread
    simp only [Counters.recordFailure, hexhaustion, Counters.recordReadFailure]
    exact ⟨congrArg (· + 1) h.readFailures, h.exhausted⟩
  · -- a sum below the word size does not wrap
    show (counters.recordFailure error).bootRestarts.toNat = _
    rw [hrestarts, h.bootRestarts, UInt64.toNat_add, UInt64.toNat_ofNat']
    show (e.counters.bootRestarts.toNat + restarts % 2 ^ 64) % 2 ^ 64 = _
    change _ < 2 ^ 64 at hroom
    omega
  · show ∃ best', (counters.recordFailure error).bestBracket = some best' ∧ best' ≤ best
    rw [hbracket]
    exact h.bestBracket best hbest

/-- The calls that a refresh makes to its machine, the newest first. -/
def refreshRecord (m : Machine σ) (converter : Converter) (settings : Settings) (e : Estimator)
    (s : σ) : List (MachineRecord σ) :=
  (e.refresh m.recorded converter settings (s, [])).2.2.2

/-- Where the error of a failed refresh comes from, by the calls that it made. -/
inductive FailureCause (converter : Converter) (settings : Settings)
    (calls : List (MachineRecord σ)) : ClockError → Prop
  /-- There is no timebase, and the machine was not called. -/
  | degraded : converter = .degraded → calls = [] →
    FailureCause converter settings calls (.calibration "no timebase for offset estimate")
  /-- The last call was a read of the wall clock, and this is its error. -/
  | wall {s : σ} {earlier : List (MachineRecord σ)} {error : ClockError} :
    converter ≠ .degraded → calls = ⟨s, .wall (.error error)⟩ :: earlier →
    FailureCause converter settings calls error
  /-- The last call was a read of the boot time, and this is its error. -/
  | boot {s : σ} {earlier : List (MachineRecord σ)} {error : ClockError} :
    converter ≠ .degraded → calls = ⟨s, .boot (.error error)⟩ :: earlier →
    FailureCause converter settings calls error
  /-- The wall clock did not change within the polls allowed. -/
  | polls : converter ≠ .degraded →
    FailureCause converter settings calls (.samplingExhausted settings.maxWallPolls)
  /-- The boot time moved in every run. -/
  | restarts : converter ≠ .degraded →
    FailureCause converter settings calls (.samplingExhausted (settings.maxBootRestarts + 1))

/-- A failure of a recorded machine is at the newest call of its record. -/
theorem FailureCause.of_fails {ratio : Ratio} {settings : Settings}
    {s t : σ × List (MachineRecord σ)} {error : ClockError} (h : m.recorded.Fails s t error) :
    FailureCause (.calibrated ratio) settings t.2 error := by
  cases h with
  | wall hreads hwall => exact .wall (by simp) (Machine.recording_eq hwall).2
  | boot hreads hboot => exact .boot (by simp) (Machine.recording_eq hboot).2

/-- A refresh that fails abandons the attempt. -/
theorem abandons_of_refresh_eq {converter : Converter} {settings : Settings} {e e' : Estimator}
    {s t : σ} {error : ClockError}
    (h : e.refresh m converter settings s = (.error error, e', t)) :
    Abandons settings error e e' := by
  cases converter with
  | degraded =>
    cases h
    -- without a timebase nothing is gathered, and the refusal counts as a failed read
    exact .of_gathered (Nat.zero_le _) (.refl _) (.calibration "no timebase for offset estimate")
  | calibrated ratio =>
    cases refresh_calibrated h with
    | failed hsample =>
      obtain ⟨restarts, hle, hgathered⟩ := takeSample_gathered hsample
      exact .of_gathered hle hgathered error

/-- The calls of a refresh that fails show where its error comes from. -/
theorem failureCause_of_refresh_eq {converter : Converter} {settings : Settings} {e e' : Estimator}
    {s : σ} {t : σ × List (MachineRecord σ)} {error : ClockError}
    (h : e.refresh m.recorded converter settings (s, []) = (.error error, e', t)) :
    FailureCause converter settings t.2 error := by
  cases converter with
  | degraded =>
    cases h
    exact .degraded rfl rfl
  | calibrated ratio =>
    cases refresh_calibrated h with
    | failed hsample =>
      rcases takeSample_error hsample with hfails | rfl | rfl
      · exact .of_fails hfails
      · exact .polls (by simp)
      · exact .restarts (by simp)

/-- A refresh that fails leaves the estimator as it was but for its counters. The error is that of
the read that failed, the refusal to estimate without a timebase, or that of a loop that ran out. -/
theorem refresh_abandons (m : Machine σ) (converter : Converter) (settings : Settings)
    (e e' : Estimator) (s t : σ) (error : ClockError)
    (h : e.refresh m converter settings s = (.error error, e', t)) :
    Abandons settings error e e' ∧
      FailureCause converter settings (e.refreshRecord m converter settings s) error := by
  refine ⟨abandons_of_refresh_eq h, ?_⟩
  -- keeping a record does not change the outcome
  obtain ⟨answer, ⟨e₁, t₁⟩, ⟨e₂, t₂⟩, hrecorded, hplain, -⟩ :=
    (m.recorded_agrees.toReadsAgree.refresh converter settings e (s := (s, [])) rfl).cases
  rw [h] at hplain
  cases hplain
  rw [refreshRecord, hrecorded]
  exact failureCause_of_refresh_eq hrecorded

/-- An estimator that has committed an offset, measured from a baseline. -/
def seasoned : Estimator where
  estimate := ⟨5000, some 4800, some (-200), some 7000⟩
  published := 5000
  valid := true
  validatedAt := 7
  counters := ⟨9, 1, 6, 4, 1, 1, some 40⟩

/-- The boot time moves during the first run, whose pair has a bracket of 30 ticks, and cannot be
read in the second one. -/
def unsteadyBoot : Script where
  wall := [.ok ⟨0, 1⟩, .ok ⟨0, 2⟩]
  boot := [.ok ⟨0, 0⟩, .ok ⟨1, 0⟩, .error (.os ClockError.eio)]
  ticks := [100, 130]

theorem seasoned_abandons :
    (seasoned.refresh (Script.machine false) (.calibrated .identity) .brief unsteadyBoot).1 =
        .error (.os 5) ∧
      Abandons .brief (.os 5) seasoned
        (seasoned.refresh (Script.machine false) (.calibrated .identity) .brief unsteadyBoot).2.1 ∧
      FailureCause (.calibrated .identity) .brief (seasoned.refreshRecord (Script.machine false)
        (.calibrated .identity) .brief unsteadyBoot) (.os 5) := by
  refine ⟨rfl, ?_⟩
  exact refresh_abandons (Script.machine false) (.calibrated .identity) .brief seasoned _
    unsteadyBoot _ (.os 5) rfl

end Estimator

end SoftClock
