import SoftClock.Machine.Simulated
import SoftClock.Proofs.Continuous.Journal
import SoftClock.Proofs.Timebase.Conversion

/-!
# How Often a Run Commits

An estimate is committed exactly if its candidate exceeds the committed offset by more than a
margin, and the margin grows with the wall time since the last commit, or since the first estimate
while nothing has been committed. Here the margin is computed over unbounded integers from the older
estimates of the journal; the state of the estimator does not occur in it.

* `Journal.driftSince_eq` says which estimate the wall time counts from;
* `Journal.isCommit_iff` is the rule for one estimate;
* `Journal.sum_floors_le` sums this up over the commits of a journal;
* `ContinuousRun.run_rateLimited` states it for runs with one timebase and one choice of settings.
-/

namespace SoftClock

variable {σ ε : Type}

/-! ## The margin -/

/-- Whole ticks in a number of nanoseconds, saturating at 64 bits. -/
def Ratio.wholeTicks (ratio : Ratio) (nanos : ℕ) : ℕ :=
  min (nanos * ratio.scale.denom.toNat / ratio.scale.numer.toNat) 0xffffffffffffffff

/-- The ticks of the smallest advance, which is capped at 64 bits. -/
def floorTicks (ratio : Ratio) (settings : Settings) : ℕ :=
  ratio.wholeTicks (min settings.minOffsetAdvance.nanos 0xffffffffffffffff)

/-- The margin after a number of nanoseconds without a commit. -/
def commitMargin (ratio : Ratio) (settings : Settings) (nanos : ℕ) : ℕ :=
  max (floorTicks ratio settings)
    (min 0xffffffffffffffff (ratio.wholeTicks nanos * settings.maxDriftPpm.toNat / 1000000))

theorem floorTicks_le_commitMargin (ratio : Ratio) (settings : Settings) (nanos : ℕ) :
    floorTicks ratio settings ≤ commitMargin ratio settings nanos :=
  le_max_left _ _

/-- Drift counts from the newest commit, or else from the oldest estimate. The newest estimate of a
journal stands first. -/
def driftReference? (older : List Completion) : Option ℤ :=
  (older.find? Completion.isCommit <|> older.getLast?).map Completion.wall

/-- Nanoseconds from the reference of the older estimates to the next one; zero for the first
estimate, and if the wall clock went back. -/
def driftGap (older : List Completion) (x : Completion) : ℕ :=
  match driftReference? older with
  | none => 0
  | some since => (x.wall - since).toNat

theorem driftReference?_of_isCommit {x : Completion} (older : List Completion)
    (h : x.isCommit) : driftReference? (x :: older) = some x.wall := by
  simp [driftReference?, h]

/-- An estimate that was not committed is the reference only if it was the first one. -/
theorem driftReference?_of_not_isCommit {x : Completion} (older : List Completion)
    (h : x.isCommit = false) :
    driftReference? (x :: older) = (driftReference? older <|> some x.wall) := by
  cases older with
  | nil => simp [driftReference?, h]
  | cons y older =>
    obtain ⟨last, hlast⟩ : ∃ last, (y :: older).getLast? = some last :=
      ⟨_, List.getLast?_eq_some_getLast (List.cons_ne_nil y older)⟩
    unfold driftReference?
    rw [List.find?_cons, h, List.getLast?_cons_cons, hlast]
    cases (y :: older).find? Completion.isCommit <;> rfl

namespace Estimate

/-- The span that drift counts, where it fits 64 bits. -/
theorem toNat_driftSpan (e : Estimate) (wall : ℤ) {nanos : ℕ}
    (hnanos : nanos = match e.driftSince with
      | none => 0
      | some since => (wall - since).toNat)
    (hfits : nanos < 0x10000000000000000) : (e.driftSpan wall).toNat = nanos := by
  unfold driftSpan
  cases hsince : e.driftSince with
  | none =>
    rw [hsince] at hnanos
    exact hnanos.symm
  | some since =>
    rw [hsince] at hnanos
    dsimp only at hnanos ⊢
    split
    · rw [UInt64.toNat_ofNat', Nat.mod_eq_of_lt] <;> omega
    · -- the wall clock went back
      show 0 = nanos
      omega

/-- The margin at a wall time, over unbounded integers. -/
theorem toNat_margin (e : Estimate) (ratio : Ratio) (settings : Settings) (wall : ℤ) :
    (e.margin ratio settings wall).toNat =
      commitMargin ratio settings (e.driftSpan wall).toNat := by
  rw [margin, toNat_requiredAdvance, Ratio.toNat_nanosToTicks, Ratio.toNat_nanosToTicks,
    Duration.clampedNanos, toNat_ofNatClamp]
  rfl

end Estimate

/-! ## One estimate -/

namespace Journal

variable {journal older : List Completion} {x : Completion} {e : Estimate}

/-- What is known is what the newest estimate left. -/
theorem eq_after (h : Journal journal e) : e = (journal.head?.map Completion.after).getD {} := by
  cases journal with
  | nil => exact h.eq_of_nil
  | cons x older => exact h.after_eq.symm

/-- What is known holds the wall time that drift counts from. -/
theorem driftSince_eq (h : Journal journal e) : e.driftSince = driftReference? journal := by
  induction journal generalizing e with
  | nil =>
    rw [h.eq_of_nil]
    rfl
  | cons x older ih =>
    rcases h.outcome_cases with ⟨houtcome, -, hsince, -⟩ | ⟨ticks, houtcome, -, hsince, -⟩
    · rw [hsince, ih h.tail,
        driftReference?_of_not_isCommit older (Completion.isCommit_of_unchanged houtcome)]
    · rw [hsince, driftReference?_of_isCommit older (Completion.isCommit_of_committed houtcome)]

/-- The margin that an estimate was compared with is that of the wall time since the reference. -/
theorem toNat_marginOf (h : Journal (x :: older) e)
    (hfits : driftGap older x < 0x10000000000000000) :
    (x.before.marginOf x.ratio x.settings x.sample).toNat =
      commitMargin x.ratio x.settings (driftGap older x) := by
  have hspan : (x.before.driftSpan x.wall).toNat = driftGap older x := by
    refine x.before.toNat_driftSpan x.wall ?_ hfits
    rw [h.tail.driftSince_eq]
    rfl
  rw [← hspan]
  exact x.before.toNat_margin x.ratio x.settings x.wall

/-- An estimate is committed exactly if its candidate exceeds the committed offset by more than the
margin. -/
theorem isCommit_iff (h : Journal (x :: older) e)
    (hfits : driftGap older x < 0x10000000000000000) :
    x.isCommit ↔
      (x.before.committed.toNat + commitMargin x.ratio x.settings (driftGap older x) : ℤ) <
        x.candidate.toInt := by
  rw [← h.toNat_marginOf hfits]
  rcases h.outcome_cases with ⟨houtcome, -, -, hle⟩ | ⟨ticks, houtcome, -, -, -, hlt⟩
  · simp [Completion.isCommit_of_unchanged houtcome, hle]
  · simp [Completion.isCommit_of_committed houtcome, hlt]

/-- Every commit adds more than the smallest advance. -/
theorem sum_floors_le (h : Journal journal e) :
    ((journal.filter Completion.isCommit).map fun x => floorTicks x.ratio x.settings + 1).sum ≤
      e.committed.toNat := by
  induction journal generalizing e with
  | nil => exact Nat.zero_le _
  | cons x older ih =>
    have hbefore := ih h.tail
    -- only a commit moves the offset, and by more than the margin, which is at least the floor
    rcases h.outcome_cases with ⟨houtcome, hcommitted, -⟩ | ⟨ticks, houtcome, -⟩
    · rw [List.filter_cons_of_neg, hcommitted]
      · exact hbefore
      · simp [Completion.isCommit_of_unchanged houtcome]
    · rw [List.filter_cons_of_pos (Completion.isCommit_of_committed houtcome), List.map_cons,
        List.sum_cons]
      obtain ⟨hcommitted, -, hlt⟩ := h.of_committed houtcome
      have hfloor : floorTicks x.ratio x.settings ≤
          (x.before.marginOf x.ratio x.settings x.sample).toNat := by
        unfold Estimate.marginOf
        rw [Estimate.toNat_margin]
        exact floorTicks_le_commitMargin _ _ _
      rw [hcommitted]
      omega

end Journal

/-! ## Runs with one timebase -/

/-- A refresh completes an estimate by its own converter and settings. -/
theorem Estimator.completion?_uses {m : Machine σ} {converter : Converter} {settings : Settings}
    {e : Estimator} {s : σ} {x : Completion}
    (h : e.completion? m converter settings s = some x) :
    converter = .calibrated x.ratio ∧ settings = x.settings := by
  cases converter with
  | degraded => cases h
  | calibrated ratio =>
    simp only [completion?] at h
    split at h
    · cases h
      exact ⟨rfl, rfl⟩
    · cases h

/-- If a step estimates, then by this timebase and with these settings. -/
def ContinuousStep.Uses (ratio : Ratio) (settings : Settings) : ContinuousStep ε → Prop
  | .environment _ | .invalidate => True
  | .refresh converter chosen | .ticks converter chosen | .approxTicks converter chosen =>
    converter = .calibrated ratio ∧ chosen = settings

instance (ratio : Ratio) (settings : Settings) (step : ContinuousStep ε) :
    Decidable (step.Uses ratio settings) := by
  unfold ContinuousStep.Uses
  split <;> infer_instance

/-- What one timebase and one choice of settings allow the completed estimates, the newest first, to
commit. -/
structure RateLimited (ratio : Ratio) (settings : Settings) (journal : List Completion)
    (e : Estimator) : Prop where
  /-- An estimate is committed exactly above the margin. -/
  commit_iff : ∀ newer x older, journal = newer ++ x :: older →
    driftGap older x < 0x10000000000000000 →
      (x.isCommit ↔
        (x.before.committed.toNat + commitMargin ratio settings (driftGap older x) : ℤ) <
          x.candidate.toInt)
  /-- A commit raises the offset to its candidate, by more than the margin. -/
  raised : ∀ newer x older ticks, journal = newer ++ x :: older →
    driftGap older x < 0x10000000000000000 → x.outcome = .committed ticks →
      x.after.committed = ticks ∧ (ticks.toNat : ℤ) = x.candidate.toInt ∧
        x.before.committed.toNat + commitMargin ratio settings (driftGap older x) < ticks.toNat
  /-- Every estimate starts from what the one before it left. -/
  before : ∀ newer x older, journal = newer ++ x :: older →
    x.before = (older.head?.map Completion.after).getD {}
  /-- The counter of commits is their number. -/
  counted : e.counters.commits.toNat = journal.countP Completion.isCommit
  /-- The offset is more than the smallest advance for each commit. -/
  total : e.counters.commits.toNat * (floorTicks ratio settings + 1) ≤ e.estimate.committed.toNat

/-- A journal by one timebase and one choice of settings limits what was committed. -/
theorem Estimator.Recounts.rateLimited {journal : List Completion} {e : Estimator} {ratio : Ratio}
    {settings : Settings} (h : e.Recounts journal)
    (huses : ∀ x ∈ journal, x.ratio = ratio ∧ x.settings = settings) :
    RateLimited ratio settings journal e := by
  have hjournal := h.estimate
  have hfloors : journal.countP Completion.isCommit * (floorTicks ratio settings + 1) ≤
      e.estimate.committed.toNat := by
    refine le_of_eq_of_le ?_ hjournal.sum_floors_le
    rw [List.map_congr_left (g := fun _ => floorTicks ratio settings + 1),
      List.countP_eq_length_filter]
    · rw [List.map_const', List.sum_replicate_nat]
    · intro x hx
      obtain ⟨hratio, hsettings⟩ := huses x (List.mem_filter.mp hx).1
      rw [hratio, hsettings]
  -- each commit raises the offset by at least one, so their number fits the counter
  have hcounted : e.counters.commits.toNat = journal.countP Completion.isCommit := by
    have hle := le_trans (Nat.le_mul_of_pos_right _ (Nat.succ_pos _)) hfloors
    rw [h.commits, UInt64.toNat_ofNat', Nat.mod_eq_of_lt]
    exact hle.trans_lt e.estimate.committed.toNat_lt
  refine
    { commit_iff := ?_
      raised := ?_
      before := ?_
      counted := hcounted
      total := hcounted ▸ hfloors }
  · intro newer x older hsplit hfits
    subst hsplit
    obtain ⟨hratio, hsettings⟩ := huses x List.mem_append_cons_self
    rw [← hratio, ← hsettings]
    exact hjournal.split.isCommit_iff hfits
  · intro newer x older ticks hsplit hfits houtcome
    subst hsplit
    obtain ⟨hratio, hsettings⟩ := huses x List.mem_append_cons_self
    rw [← hratio, ← hsettings, ← hjournal.split.toNat_marginOf hfits]
    exact hjournal.split.of_committed houtcome
  · intro newer x older hsplit
    subst hsplit
    exact hjournal.split.tail.eq_after

namespace ContinuousRun

variable {m : Machine σ} {act : ε → σ → σ} {ratio : Ratio} {settings : Settings}

/-- A step that uses one timebase and one choice of settings completes its estimate by them. -/
theorem step_uses {run : ContinuousRun σ} {step : ContinuousStep ε} {x : Completion}
    (hstep : step.Uses ratio settings) (h : step.completion? m run = some x) :
    x.ratio = ratio ∧ x.settings = settings := by
  have huses {converter : Converter} {chosen : Settings} {e : Estimator} {s : σ}
      (hchosen : converter = .calibrated ratio ∧ chosen = settings)
      (h : e.completion? m converter chosen s = some x) :
      x.ratio = ratio ∧ x.settings = settings := by
    obtain ⟨hconverter, hsettings⟩ := Estimator.completion?_uses h
    rw [hconverter, Converter.calibrated.injEq] at hchosen
    exact ⟨hchosen.1, hsettings.symm.trans hchosen.2⟩
  -- a read completes an estimate only if it attempts one
  have hread {converter : Converter} {chosen : Settings}
      (hchosen : converter = .calibrated ratio ∧ chosen = settings)
      (h : run.count.completion? m converter chosen run.state = some x) :
      x.ratio = ratio ∧ x.settings = settings := by
    unfold Continuous.completion? at h
    split at h
    · cases h
    all_goals
      split at h
      · exact huses hchosen h
      · cases h
  cases step with
  | environment action => cases h
  | invalidate => cases h
  | refresh converter chosen => exact huses hstep h
  | ticks converter chosen => exact hread hstep h
  | approxTicks converter chosen => exact hread hstep h

/-- A run with one timebase and one choice of settings completes its estimates by them. -/
theorem completions_use {run : ContinuousRun σ} {steps : List (ContinuousStep ε)}
    (hsteps : ∀ step ∈ steps, step.Uses ratio settings) :
    ∀ x ∈ run.completions m act steps, x.ratio = ratio ∧ x.settings = settings := by
  induction steps generalizing run with
  | nil => exact fun x hx => absurd hx List.not_mem_nil
  | cons step steps ih =>
    intro x hx
    rw [completions, List.mem_append, Option.mem_toList] at hx
    rcases hx with hlater | hfirst
    · exact ih (fun next hnext => hsteps next (List.mem_cons_of_mem _ hnext)) x hlater
    · exact step_uses (hsteps step List.mem_cons_self) hfirst

/-- In a run with one timebase and one choice of settings an estimate is committed exactly above its
margin, which its distance from the last commit, or else from the first estimate, decides. No
completed attempt of the history is left out. -/
theorem run_rateLimited (m : Machine σ) (act : ε → σ → σ) (initial : Settings) (s : σ)
    (steps : List (ContinuousStep ε)) (hsteps : ∀ step ∈ steps, step.Uses ratio settings) :
    RateLimited ratio settings ((start initial s).completions m act steps)
        ((start initial s).run m act steps).count.estimator ∧
      ((start initial s).completions m act steps).map Completion.outcome =
        ((start initial s).run m act steps).history.filterMap EstimatorEvent.outcome? := by
  exact ⟨(run_recounts m act initial s steps).rateLimited (completions_use hsteps),
    run_outcomes m act initial s steps⟩

/-- A machine sleeps for a second, is awake for an hour, and sleeps for a second and then for two
more. An estimate fails while the wall clock cannot be read. -/
def hourAwakeSteps : List (ContinuousStep (Simulated → Simulated)) :=
  let estimate := .refresh (.calibrated .identity) .brief
  [.environment (Simulated.setStep 1000), estimate,
    .environment (Simulated.sleep (.ofNanos 1000000000)), estimate,
    .environment (Simulated.advance .hour),
    .environment (Simulated.sleep (.ofNanos 1000000000)), estimate,
    .environment (Simulated.failWallReads true), estimate,
    .environment (Simulated.failWallReads false),
    .environment (Simulated.sleep (.ofNanos 2000000000)), estimate]

/-- The run of `hourAwakeSteps` on a simulated machine whose ticks are nanoseconds. -/
def hourAwakeRun : ContinuousRun Simulated :=
  (start .brief (.withScale .identity)).run Simulated.machine id hourAwakeSteps

/-- After an hour awake a second of sleep is within the margin, and three seconds are not. -/
theorem hourAwakeRun_rateLimited :
    (∀ step ∈ hourAwakeSteps, step.Uses .identity .brief) ∧
      hourAwakeRun.history.filterMap EstimatorEvent.outcome? =
        [.committed 4000000000, .unchanged, .committed 1000000000, .unchanged] ∧
      RateLimited .identity .brief
        ((start .brief (.withScale .identity)).completions Simulated.machine id hourAwakeSteps)
        hourAwakeRun.count.estimator := by
  have huses : ∀ step ∈ hourAwakeSteps, step.Uses .identity .brief := by decide
  refine ⟨huses, by decide +kernel, ?_⟩
  unfold hourAwakeRun
  exact (run_rateLimited Simulated.machine id .brief (.withScale .identity) hourAwakeSteps huses).1

end ContinuousRun

end SoftClock
