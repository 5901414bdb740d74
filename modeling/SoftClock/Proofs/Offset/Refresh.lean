import SoftClock.Offset.Estimator
import SoftClock.Proofs.Offset.Sampling
import SoftClock.Proofs.Word.Clamp

/-!
# How an Estimate Ends

Case analyses of the functions that turn a sample into a committed offset. Everything that later
modules say of a refresh follows from them, without another look at the definitions.

* `applyHysteresis_cases`: the offset stays, or rises to the candidate by more than the margin;
* `Estimate.absorb_cases`: a sample is rejected or committed, with the estimate that results;
* `Estimator.refresh_cases`: a refresh fails and moves only counters, or absorbs a sample that was
  seen on the machine.
-/

namespace SoftClock

variable {σ τ : Type} {m : Machine σ} {n : Machine τ} {R : σ → τ → Prop}

theorem toInt_saturatingSub (a b : Int64) :
    (saturatingSub a b).toInt =
      max (-0x8000000000000000) (min (a.toInt - b.toInt) 0x7fffffffffffffff) :=
  toInt_ofIntClamp _

/-! ## The hysteresis rule -/

/-- The margin that an estimate has to exceed, over unbounded integers. -/
theorem toNat_requiredAdvance (floor sinceCommit : UInt64) (ppm : UInt32) :
    (requiredAdvance floor sinceCommit ppm).toNat =
      max floor.toNat (min 0xffffffffffffffff (sinceCommit.toNat * ppm.toNat / 1000000)) := by
  rw [requiredAdvance, toNat_max, toNat_ofNatClamp, min_comm]

/-- The offset stays, or it rises to the candidate by more than the margin. No candidate reaches the
saturated sum, so saturation does not show. -/
theorem applyHysteresis_cases (committed : UInt64) (candidate : Int64) (margin : UInt64) :
    (applyHysteresis committed candidate margin = committed ∧
        candidate.toInt ≤ committed.toNat + margin.toNat) ∨
      ((committed.toNat + margin.toNat : ℤ) < candidate.toInt ∧
        ((applyHysteresis committed candidate margin).toNat : ℤ) = candidate.toInt) := by
  have hcandidate := toInt_mem_range candidate
  rw [applyHysteresis]
  split
  · right
    -- above the margin a candidate is positive, and a signed word fits an unsigned one
    refine ⟨by omega, ?_⟩
    rw [UInt64.toNat_ofNat']
    omega
  · left
    exact ⟨rfl, by omega⟩

/-- A raised offset differs from the one before. -/
theorem applyHysteresis_ne {committed : UInt64} {candidate : Int64} {margin : UInt64}
    (h : (committed.toNat + margin.toNat : ℤ) < candidate.toInt)
    (hnext : ((applyHysteresis committed candidate margin).toNat : ℤ) = candidate.toInt) :
    applyHysteresis committed candidate margin ≠ committed := by
  intro heq
  rw [heq] at hnext
  omega

/-! ## Absorbing a sample -/

namespace Estimate

variable (e : Estimate) (ratio : Ratio) (settings : Settings) (sample : BootSample)

/-- The baseline after a raw value: the one before, or the raw value if it is the first negative
one. -/
theorem observe_baseline (raw : Int64) :
    (e.observe raw).baseline = e.baseline ∧ (0 ≤ raw.toInt ∨ e.baseline ≠ none) ∨
      (e.observe raw).baseline = some raw ∧ raw.toInt < 0 ∧ e.baseline = none := by
  have hneg : raw < 0 ↔ raw.toInt < 0 := Int64.lt_iff_toInt_lt
  rw [observe]
  cases hbaseline : e.baseline with
  | some b => left; simp
  | none =>
    by_cases hraw : raw < 0
    · right
      exact ⟨by simp [hraw], hneg.mp hraw, rfl⟩
    · left
      exact ⟨by simp [hraw], .inl (Int.not_lt.mp (mt hneg.mpr hraw))⟩

/-- What holds of the baseline and of every negative raw value holds of the baseline after it. -/
theorem baseline_observe_of {P : Int64 → Prop} {e : Estimate} {raw : Int64}
    (hbaseline : ∀ b, e.baseline = some b → P b) (hraw : raw.toInt < 0 → P raw) :
    ∀ b, (e.observe raw).baseline = some b → P b := by
  intro b hb
  rcases e.observe_baseline raw with ⟨hkept, -⟩ | ⟨hset, hneg, -⟩
  · exact hbaseline b (hkept.symm.trans hb)
  · rw [hset, Option.some.injEq] at hb
    exact hb ▸ hraw hneg

/-- The candidate that a sample gives, measured from the baseline that it may have set itself. -/
def candidateOf : Int64 := (e.observe (sample.raw ratio)).candidate (sample.raw ratio)

/-- A candidate is the raw value less the baseline, or less nothing, within the signed range. -/
theorem toInt_candidateOf : (e.candidateOf ratio sample).toInt =
    max (-0x8000000000000000) (min ((sample.raw ratio).toInt -
      ((e.observe (sample.raw ratio)).baseline.getD 0).toInt) 0x7fffffffffffffff) :=
  toInt_saturatingSub _ _

/-- The margin that a sample has to exceed. -/
def marginOf : UInt64 := e.margin ratio settings sample.pair.wall.exactNanos

/-- A sample is rejected within the margin, or committed above it. -/
theorem absorb_cases :
    (e.absorb ratio settings sample = (.unchanged,
        { e.observe (sample.raw ratio) with
          driftSince := e.driftSince <|> some sample.pair.wall.exactNanos }) ∧
      (e.candidateOf ratio sample).toInt ≤
        e.committed.toNat + (e.marginOf ratio settings sample).toNat) ∨
    ∃ next : UInt64,
      e.absorb ratio settings sample = (.committed next,
        { e.observe (sample.raw ratio) with
          committed := next
          driftSince := some sample.pair.wall.exactNanos }) ∧
      (next.toNat : ℤ) = (e.candidateOf ratio sample).toInt ∧
      (e.committed.toNat + (e.marginOf ratio settings sample).toNat : ℤ) <
        (e.candidateOf ratio sample).toInt := by
  rcases applyHysteresis_cases e.committed (e.candidateOf ratio sample)
    (e.marginOf ratio settings sample) with ⟨hstay, hle⟩ | ⟨hlt, hnext⟩
  · left
    refine ⟨?_, hle⟩
    rw [absorb]
    exact if_pos hstay
  · right
    refine ⟨_, ?_, hnext, hlt⟩
    rw [absorb]
    exact if_neg (applyHysteresis_ne hlt hnext)

/-- Absorbing a sample never lowers the committed offset. -/
theorem committed_le_absorb : e.committed ≤ (e.absorb ratio settings sample).2.committed := by
  rw [UInt64.le_iff_toNat_le]
  rcases e.absorb_cases ratio settings sample with ⟨habsorb, -⟩ | ⟨next, habsorb, hnext, hlt⟩
  · rw [habsorb]
    exact le_rfl
  · rw [habsorb]
    change e.committed.toNat ≤ next.toNat
    omega

/-- A sample that sets the baseline is measured from its own raw value. -/
theorem candidateOf_of_sets_baseline (hraw : (sample.raw ratio).toInt < 0)
    (hbaseline : e.baseline = none) : (e.candidateOf ratio sample).toInt = 0 := by
  have hset : (e.observe (sample.raw ratio)).baseline = some (sample.raw ratio) := by
    simp [observe, hbaseline, Int64.lt_iff_toInt_lt, hraw]
  rw [candidateOf, candidate, hset, toInt_saturatingSub]
  simp

end Estimate

/-! ## A refresh -/

/-- Agreeing machines are refreshed alike. -/
theorem Machine.ReadsAgree.refresh (h : m.ReadsAgree n R) (converter : Converter)
    (settings : Settings) (e : Estimator) {s : σ} {t : τ} (hst : R s t) :
    Agree (Agree R) (e.refresh m converter settings s) (e.refresh n converter settings t) := by
  cases converter with
  | degraded => exact ⟨rfl, rfl, hst⟩
  | calibrated ratio =>
    obtain ⟨answer, ⟨c, s'⟩, ⟨_, t'⟩, hm, hn, rfl, h'⟩ :=
      (h.takeSample settings e.counters.recordAttempt hst).cases
    simp only [Estimator.refresh, hm, hn]
    cases answer with
    | error error => exact ⟨rfl, rfl, h'⟩
    | ok sample => exact ⟨rfl, rfl, h'⟩

namespace Estimator

/-- One more in a number is one more in its word. -/
theorem ofNat_succ_of_eq {w : UInt64} {k : ℕ} (h : w = .ofNat k) : w + 1 = .ofNat (k + 1) := by
  rw [h, UInt64.ofNat_add]
  rfl

/-- A refresh only reads the machine. -/
theorem refresh_reads {converter : Converter} {settings : Settings} {e e' : Estimator} {s t : σ}
    {answer : Except ClockError RefreshOutcome}
    (h : e.refresh m converter settings s = (answer, e', t)) : m.Reads s t := by
  have hreads := (Machine.ReadsAgree.reads m s).refresh converter settings e ⟨rfl, .refl s⟩
  rw [h] at hreads
  exact hreads.2.2.2

/-- How a refresh with a timebase goes. -/
inductive RefreshStep (m : Machine σ) (ratio : Ratio) (settings : Settings) (e : Estimator)
    (s : σ) : Except ClockError RefreshOutcome → Estimator → σ → Prop
  /-- Sampling fails, which is counted. -/
  | failed {error : ClockError} {counters : Counters} {t : σ} :
    takeSample m settings e.counters.recordAttempt s = (.error error, counters, t) →
    RefreshStep m ratio settings e s (.error error)
      { e with counters := counters.recordFailure error } t
  /-- The sample is absorbed. -/
  | absorbed {sample : BootSample} {counters : Counters} {t : σ} :
    takeSample m settings e.counters.recordAttempt s = (.ok sample, counters, t) →
    RefreshStep m ratio settings e s (.ok (e.estimate.absorb ratio settings sample).1)
      (e.complete (e.estimate.absorb ratio settings sample).1
        (e.estimate.absorb ratio settings sample).2 counters sample.pair.wall) t

theorem refresh_calibrated {ratio : Ratio} {settings : Settings} {e e' : Estimator} {s t : σ}
    {answer : Except ClockError RefreshOutcome}
    (h : e.refresh m (.calibrated ratio) settings s = (answer, e', t)) :
    RefreshStep m ratio settings e s answer e' t := by
  rcases hsample : takeSample m settings e.counters.recordAttempt s with ⟨sampled, counters, u⟩
  simp only [refresh, hsample] at h
  cases sampled with
  | error error =>
    rw [Prod.mk.injEq, Prod.mk.injEq] at h
    obtain ⟨rfl, rfl, rfl⟩ := h
    exact .failed hsample
  | ok sample =>
    rw [Prod.mk.injEq, Prod.mk.injEq] at h
    obtain ⟨rfl, rfl, rfl⟩ := h
    exact .absorbed hsample

/-- A refresh fails and moves only counters, or it absorbs a sample that was seen. Either way the
counts of commits and rejections are left to what is done with the sample. -/
theorem refresh_cases {converter : Converter} {settings : Settings} {e e' : Estimator} {s t : σ}
    {outcome : Except ClockError RefreshOutcome}
    (h : e.refresh m converter settings s = (outcome, e', t)) :
    (∃ error counters, outcome = .error error ∧ e' = { e with counters } ∧
      counters.commits = e.counters.commits ∧ counters.rejections = e.counters.rejections) ∨
    ∃ ratio sample counters, converter = .calibrated ratio ∧
      outcome = .ok (e.estimate.absorb ratio settings sample).1 ∧
      e' = e.complete (e.estimate.absorb ratio settings sample).1
        (e.estimate.absorb ratio settings sample).2 counters sample.pair.wall ∧
      m.ObservesSample s t sample ∧
      counters.commits = e.counters.commits ∧ counters.rejections = e.counters.rejections := by
  cases converter with
  | degraded =>
    rw [refresh, Prod.mk.injEq, Prod.mk.injEq] at h
    exact .inl ⟨_, _, h.1.symm, h.2.1.symm, rfl, rfl⟩
  | calibrated ratio =>
    cases refresh_calibrated h with
    | @failed error counters _ hsample =>
      obtain ⟨restarts, -, hsampled⟩ := takeSample_gathered hsample
      refine .inl ⟨error, _, rfl, rfl, ?_⟩
      -- a failure is counted as an exhausted attempt or as a failed read
      rw [Counters.recordFailure]
      split <;> exact ⟨hsampled.commits, hsampled.rejections⟩
    | @absorbed sample counters _ hsample =>
      obtain ⟨restarts, -, hsampled⟩ := takeSample_gathered hsample
      exact .inr ⟨ratio, sample, counters, rfl, rfl, rfl, takeSample_observes hsample,
        hsampled.commits, hsampled.rejections⟩

@[simp]
theorem complete_estimate (e : Estimator) (outcome : RefreshOutcome) (estimate : Estimate)
    (counters : Counters) (wall : Timeval) :
    (e.complete outcome estimate counters wall).estimate = estimate := rfl

/-- The published offset stays, or rises to what was committed. -/
theorem complete_published_cases (e : Estimator) (outcome : RefreshOutcome) (estimate : Estimate)
    (counters : Counters) (wall : Timeval) :
    (e.complete outcome estimate counters wall).published = e.published ∨
      ∃ ticks, outcome = .committed ticks ∧ e.published ≤ ticks ∧
        (e.complete outcome estimate counters wall).published = ticks := by
  cases outcome with
  | unchanged => exact .inl rfl
  | committed ticks =>
    by_cases h : e.published ≤ ticks
    · exact .inr ⟨ticks, rfl, h, if_pos h⟩
    · exact .inl (if_neg h)

/-- A refresh never lowers the published offset, and keeps it within the signed range. -/
theorem refresh_published {converter : Converter} {settings : Settings} {e e' : Estimator}
    {s t : σ} {outcome : Except ClockError RefreshOutcome}
    (h : e.refresh m converter settings s = (outcome, e', t)) :
    e.published ≤ e'.published ∧
      (e.published.toNat < 0x8000000000000000 → e'.published.toNat < 0x8000000000000000) := by
  rcases refresh_cases h with
    ⟨error, counters, -, rfl, -⟩ | ⟨ratio, sample, counters, -, -, rfl, -⟩
  · exact ⟨UInt64.le_refl _, id⟩
  · rcases e.complete_published_cases (e.estimate.absorb ratio settings sample).1
      (e.estimate.absorb ratio settings sample).2 counters sample.pair.wall with
      hsame | ⟨ticks, houtcome, hle, hraised⟩
    · rw [hsame]
      exact ⟨UInt64.le_refl _, id⟩
    · rw [hraised]
      refine ⟨hle, fun _ => ?_⟩
      -- what was committed is a candidate, which is a signed word
      rcases e.estimate.absorb_cases ratio settings sample with
        ⟨habsorb, -⟩ | ⟨next, habsorb, hnext, -⟩
      · rw [habsorb] at houtcome
        cases houtcome
      · rw [habsorb] at houtcome
        cases houtcome
        have := toInt_mem_range (e.estimate.candidateOf ratio sample)
        omega

/-- A refresh never lowers the committed offset. -/
theorem refresh_committed_le {converter : Converter} {settings : Settings} {e e' : Estimator}
    {s t : σ} {outcome : Except ClockError RefreshOutcome}
    (h : e.refresh m converter settings s = (outcome, e', t)) :
    e.estimate.committed ≤ e'.estimate.committed := by
  rcases refresh_cases h with
    ⟨error, counters, -, rfl, -⟩ | ⟨ratio, sample, counters, -, -, rfl, -⟩
  · exact UInt64.le_refl _
  · rw [complete_estimate]
    exact e.estimate.committed_le_absorb ratio settings sample

end Estimator

end SoftClock
