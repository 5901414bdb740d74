import SoftClock.Offset.Sample
import Mathlib.Data.Nat.Notation

/-!
# Steps of Sampling

What a single poll, a single pair and a single run can do. Sampling nests three bounded loops, and
each of them can end early. Every way through one round of a loop is listed here once, with the
calls that lead there, so that what holds of sampling follows from the rounds by induction on how
many are left.

* `PollStep` and `RunStep` list the ways of a poll and of a run;
* `awaitChange_succ` and `sampleRuns_succ` say that there are no others;
* `pairOnce_cases`, `improvePair_succ` and `bestPair_cases` do the same for the search of a pair, of
  which there are two ways only.
-/

namespace SoftClock

variable {σ : Type} {m : Machine σ} {s t : σ}

/-! ## Polls -/

/-- How polling goes while a number of polls is left after this one. -/
inductive PollStep (m : Machine σ) (allowed : UInt32) (start : Timeval) (polls : ℕ) (s : σ) :
    Except ClockError PairedSample → σ → Prop
  /-- The wall clock cannot be read. -/
  | unreadable {before : UInt64} {error : ClockError} {d e : σ} :
    m.ticks s = (before, d) → m.wall d = (.error error, e) →
    PollStep m allowed start polls s (.error error) e
  /-- The wall clock shows something else than at the start, which ends the polling. -/
  | changed {before after : UInt64} {wall : Timeval} {d e f : σ} :
    m.ticks s = (before, d) → m.wall d = (.ok wall, e) → m.ticks e = (after, f) → wall ≠ start →
    PollStep m allowed start polls s (.ok ⟨wall, before, after⟩) f
  /-- The wall clock shows the start again, and the other polls go on. -/
  | idle {before after : UInt64} {d e f : σ} {answer : Except ClockError PairedSample} {t : σ} :
    m.ticks s = (before, d) → m.wall d = (.ok start, e) → m.ticks e = (after, f) →
    awaitChange m allowed start polls f = (answer, t) →
    PollStep m allowed start polls s answer t

theorem awaitChange_succ {allowed : UInt32} {start : Timeval} {polls : ℕ}
    {answer : Except ClockError PairedSample}
    (h : awaitChange m allowed start (polls + 1) s = (answer, t)) :
    PollStep m allowed start polls s answer t := by
  rw [awaitChange] at h
  rcases hbefore : m.ticks s with ⟨before, d⟩
  rcases hwall : m.wall d with ⟨polled, e⟩
  simp only [hbefore, hwall] at h
  cases polled with
  | error error =>
    cases h
    exact .unreadable hbefore hwall
  | ok wall =>
    rcases hafter : m.ticks e with ⟨after, f⟩
    simp only [hafter] at h
    by_cases hstart : wall = start
    · rw [if_pos hstart] at h
      exact .idle hbefore (hstart ▸ hwall) hafter h
    · rw [if_neg hstart] at h
      cases h
      exact .changed hbefore hwall hafter hstart

/-! ## Pairs -/

section Pairs

variable {answer : Except ClockError PairedSample} {c c' : Counters}

/-- The search for a pair fails at its first read, or comes to its polls. -/
theorem pairOnce_cases {allowed : UInt32} (h : pairOnce m allowed s = (answer, t)) :
    (∃ error, m.wall s = (.error error, t) ∧ answer = .error error) ∨
      ∃ start b, m.wall s = (.ok start, b) ∧
        awaitChange m allowed start allowed.toNat b = (answer, t) := by
  rw [pairOnce] at h
  rcases hwall : m.wall s with ⟨first, b⟩
  rw [hwall] at h
  cases first with
  | error error =>
    cases h
    exact .inl ⟨error, rfl, rfl⟩
  | ok start => exact .inr ⟨start, b, rfl, h⟩

/-- One more pair fails, or leaves the tighter of two to the pairs after it. -/
theorem improvePair_succ {allowed : UInt32} {more : ℕ} {best : PairedSample}
    (h : improvePair m allowed (more + 1) best c s = (answer, c', t)) :
    (∃ error, pairOnce m allowed s = (.error error, t) ∧ answer = .error error ∧ c' = c) ∨
      ∃ pair u, pairOnce m allowed s = (.ok pair, u) ∧
        improvePair m allowed more (best.tighter pair) (c.recordBracket pair.bracket) u =
          (answer, c', t) := by
  rw [improvePair] at h
  rcases hpair : pairOnce m allowed s with ⟨found, u⟩
  rw [hpair] at h
  cases found with
  | error error =>
    cases h
    exact .inl ⟨error, rfl, rfl, rfl⟩
  | ok pair => exact .inr ⟨pair, u, rfl, h⟩

/-- The first pair of a run fails, or is left to the pairs after it. -/
theorem bestPair_cases {settings : Settings} (h : bestPair m settings c s = (answer, c', t)) :
    (∃ error, pairOnce m settings.maxWallPolls s = (.error error, t) ∧ answer = .error error ∧
        c' = c) ∨
      ∃ pair u, pairOnce m settings.maxWallPolls s = (.ok pair, u) ∧
        improvePair m settings.maxWallPolls (settings.samplesPerAttempt.toNat - 1) pair
          (c.recordBracket pair.bracket) u = (answer, c', t) := by
  rw [bestPair] at h
  rcases hpair : pairOnce m settings.maxWallPolls s with ⟨found, u⟩
  rw [hpair] at h
  cases found with
  | error error =>
    cases h
    exact .inl ⟨error, rfl, rfl, rfl⟩
  | ok pair => exact .inr ⟨pair, u, rfl, h⟩

end Pairs

/-! ## Runs -/

/-- How sampling goes while a number of runs is left after this one. -/
inductive RunStep (m : Machine σ) (settings : Settings) (runs : ℕ) (c : Counters) (s : σ) :
    Except ClockError BootSample → Counters → σ → Prop
  /-- The boot time cannot be read before the pairs. -/
  | unreadable {error : ClockError} {b : σ} :
    m.boot s = (.error error, b) → RunStep m settings runs c s (.error error) c b
  /-- The pairs cannot be taken. -/
  | unpaired {boot : Timeval} {error : ClockError} {c' : Counters} {b u : σ} :
    m.boot s = (.ok boot, b) → bestPair m settings c b = (.error error, c', u) →
    RunStep m settings runs c s (.error error) c' u
  /-- The boot time cannot be read after the pairs. -/
  | unconfirmed {boot : Timeval} {pair : PairedSample} {error : ClockError} {c' : Counters}
    {b u v : σ} :
    m.boot s = (.ok boot, b) → bestPair m settings c b = (.ok pair, c', u) →
    m.boot u = (.error error, v) → RunStep m settings runs c s (.error error) c' v
  /-- The boot time stands still, which ends the sampling. -/
  | stands {boot : Timeval} {pair : PairedSample} {c' : Counters} {b u v : σ} :
    m.boot s = (.ok boot, b) → bestPair m settings c b = (.ok pair, c', u) →
    m.boot u = (.ok boot, v) → RunStep m settings runs c s (.ok ⟨boot, pair⟩) c' v
  /-- The boot time moves, and the other runs go on. -/
  | moved {boot bootAfter : Timeval} {pair : PairedSample} {c₂ c' : Counters} {b u v t : σ}
    {answer : Except ClockError BootSample} :
    m.boot s = (.ok boot, b) → bestPair m settings c b = (.ok pair, c₂, u) →
    m.boot u = (.ok bootAfter, v) → bootAfter ≠ boot →
    sampleRuns m settings runs c₂.recordBootRestart v = (answer, c', t) →
    RunStep m settings runs c s answer c' t

theorem sampleRuns_succ {settings : Settings} {runs : ℕ} {c c' : Counters}
    {answer : Except ClockError BootSample}
    (h : sampleRuns m settings (runs + 1) c s = (answer, c', t)) :
    RunStep m settings runs c s answer c' t := by
  rw [sampleRuns] at h
  -- every call ends the run by its error, or the next one is made where it stopped
  rcases hboot : m.boot s with ⟨first, b⟩
  rw [hboot] at h
  cases first with
  | error error =>
    cases h
    exact .unreadable hboot
  | ok boot =>
    rcases hpair : bestPair m settings c b with ⟨found, c₂, u⟩
    simp only [hpair] at h
    cases found with
    | error error =>
      cases h
      exact .unpaired hboot hpair
    | ok pair =>
      rcases hagain : m.boot u with ⟨again, v⟩
      simp only [hagain] at h
      cases again with
      | error error =>
        cases h
        exact .unconfirmed hboot hpair hagain
      | ok bootAfter =>
        dsimp only at h
        by_cases hstands : boot = bootAfter
        · rw [if_pos hstands] at h
          cases h
          exact .stands hboot hpair (hstands ▸ hagain)
        · rw [if_neg hstands] at h
          exact .moved hboot hpair hagain (Ne.symm hstands) h

end SoftClock
