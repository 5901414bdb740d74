import SoftClock.Proofs.Offset.Refresh

/-!
# The Journal of an Estimate

What is known about the time asleep is the outcome of the estimates that completed, and of nothing
else. A journal lists them, the newest first.

* `Completion` is one completed estimate: what was known before it, the sample that it took, and its
  outcome. `Estimator.completion?` is the one that a refresh makes, if it completes.
* `Journal` relates a list of completed estimates to what is known after them, each of them starting
  from what the one before it left.
* `Journal.split` picks one of them, with the older ones; `Journal.outcome_cases` says when it was
  committed, and `Journal.of_committed` what a commit stores.
* `Estimator.refresh_recounts` is the step: a refresh adds its completed estimate to the journal.
  `Estimator.completion?_outcome` says that it is the one that the refresh answers with.
-/

namespace SoftClock

variable {σ : Type}

/-- A completed estimate. -/
structure Completion where
  /-- What was known before it. -/
  before : Estimate
  ratio : Ratio
  settings : Settings
  sample : BootSample
  outcome : RefreshOutcome

namespace Completion

/-- The raw estimate of the sample. -/
def raw (x : Completion) : Int64 := x.sample.raw x.ratio

/-- The wall time of the sample, in nanoseconds. -/
def wall (x : Completion) : ℤ := x.sample.pair.wall.exactNanos

/-- The candidate that was compared with the committed offset. -/
def candidate (x : Completion) : Int64 := x.before.candidateOf x.ratio x.sample

/-- The offset that was committed, if one was. -/
def committed? (x : Completion) : Option UInt64 :=
  match x.outcome with
  | .committed ticks => some ticks
  | .unchanged => none

/-- Whether an offset was committed. -/
def isCommit (x : Completion) : Bool := x.committed?.isSome

theorem isCommit_of_committed {x : Completion} {ticks : UInt64}
    (h : x.outcome = .committed ticks) : x.isCommit := by
  simp [isCommit, committed?, h]

theorem isCommit_of_unchanged {x : Completion} (h : x.outcome = .unchanged) :
    x.isCommit = false := by
  simp [isCommit, committed?, h]

/-- What was known after it. -/
def after (x : Completion) : Estimate := (x.before.absorb x.ratio x.settings x.sample).2

/-- Absorbing a sample leaves the baseline to what was observed. -/
theorem after_baseline (x : Completion) :
    x.after.baseline = (x.before.observe x.raw).baseline := by
  rcases x.before.absorb_cases x.ratio x.settings x.sample with
    ⟨habsorb, -⟩ | ⟨next, habsorb, -⟩ <;> rw [after, habsorb] <;> rfl

end Completion

/-- The completed estimates that led to what is known, the newest first. -/
inductive Journal : List Completion → Estimate → Prop
  | nil : Journal [] {}
  | absorb {older : List Completion} {e : Estimate} (ratio : Ratio) (settings : Settings)
    (sample : BootSample) :
    Journal older e →
    Journal (⟨e, ratio, settings, sample, (e.absorb ratio settings sample).1⟩ :: older)
      (e.absorb ratio settings sample).2

namespace Journal

variable {newer older : List Completion} {x : Completion} {e : Estimate}

/-- Each completed estimate is the newest one of a journal of its own. -/
theorem split (h : Journal (newer ++ x :: older) e) : Journal (x :: older) x.after := by
  induction newer generalizing e with
  | nil =>
    cases h with
    | absorb ratio settings sample hbefore => exact .absorb ratio settings sample hbefore
  | cons y newer ih =>
    cases h with
    | absorb ratio settings sample hbefore => exact ih hbefore

/-- What is known before anything completed. -/
theorem eq_of_nil (h : Journal [] e) : e = {} := by
  cases h
  rfl

/-- What the newest estimate left is what is known. -/
theorem after_eq (h : Journal (x :: older) e) : x.after = e := by
  cases h
  rfl

/-- The rest of a journal. -/
theorem tail (h : Journal (x :: older) e) : Journal older x.before := by
  cases h with
  | absorb ratio settings sample hbefore => exact hbefore

/-- A completed estimate was rejected within the margin, or it was committed above it. Either way
this decides what was known after it. -/
theorem outcome_cases (h : Journal (x :: older) e) :
    (x.outcome = .unchanged ∧ e.committed = x.before.committed ∧
        e.driftSince = (x.before.driftSince <|> some x.wall) ∧
        x.candidate.toInt ≤
          x.before.committed.toNat + (x.before.marginOf x.ratio x.settings x.sample).toNat) ∨
      ∃ ticks, x.outcome = .committed ticks ∧ e.committed = ticks ∧ e.driftSince = some x.wall ∧
        (ticks.toNat : ℤ) = x.candidate.toInt ∧
        (x.before.committed.toNat + (x.before.marginOf x.ratio x.settings x.sample).toNat : ℤ) <
          x.candidate.toInt := by
  cases h with
  | absorb ratio settings sample hbefore =>
    rename_i before
    rcases before.absorb_cases ratio settings sample with
      ⟨habsorb, hle⟩ | ⟨next, habsorb, hnext, hlt⟩
    · rw [habsorb]
      exact .inl ⟨rfl, rfl, rfl, hle⟩
    · rw [habsorb]
      exact .inr ⟨next, rfl, rfl, rfl, hnext, hlt⟩

/-- A commit stores its candidate, which exceeds the offset before it by more than the margin. -/
theorem of_committed (h : Journal (x :: older) e) {ticks : UInt64}
    (houtcome : x.outcome = .committed ticks) :
    e.committed = ticks ∧ (ticks.toNat : ℤ) = x.candidate.toInt ∧
      x.before.committed.toNat + (x.before.marginOf x.ratio x.settings x.sample).toNat <
        ticks.toNat := by
  rcases h.outcome_cases with ⟨hunchanged, -⟩ | ⟨next, hnext, hcommitted, -, hcandidate, hlt⟩
  · rw [hunchanged] at houtcome
    cases houtcome
  · rw [hnext, RefreshOutcome.committed.injEq] at houtcome
    subst houtcome
    exact ⟨hcommitted, hcandidate, by omega⟩

end Journal

namespace Estimator

/-- The estimate that a refresh completes, if it does. -/
def completion? (m : Machine σ) (converter : Converter) (settings : Settings) (e : Estimator)
    (s : σ) : Option Completion :=
  match converter with
  | .degraded => none
  | .calibrated ratio =>
    match (takeSample m settings e.counters.recordAttempt s).1,
      (e.refresh m converter settings s).1 with
    | .ok sample, .ok outcome => some ⟨e.estimate, ratio, settings, sample, outcome⟩
    | _, _ => none

/-- What an estimator knows is what its journal led to, and it has counted the commits of the
journal. -/
structure Recounts (journal : List Completion) (e : Estimator) : Prop where
  estimate : Journal journal e.estimate
  commits : e.counters.commits = .ofNat (journal.countP Completion.isCommit)

/-- A refresh adds what it completes to the journal, and nothing if it fails. -/
theorem refresh_recounts {m : Machine σ} {converter : Converter} {settings : Settings}
    {e : Estimator} {journal : List Completion} (h : Recounts journal e) (s : σ) :
    Recounts ((e.completion? m converter settings s).toList ++ journal)
      (e.refresh m converter settings s).2.1 := by
  cases converter with
  | degraded => exact ⟨h.estimate, h.commits⟩
  | calibrated ratio =>
    rcases hsample : takeSample m settings e.counters.recordAttempt s with ⟨answer, counters, t⟩
    obtain ⟨restarts, -, hgathered⟩ := takeSample_gathered hsample
    have hcommits : counters.commits = .ofNat (journal.countP Completion.isCommit) :=
      hgathered.commits.trans h.commits
    cases answer with
    | error error =>
      simp only [completion?, refresh, hsample]
      refine ⟨h.estimate, ?_⟩
      -- a failure is counted elsewhere
      rw [Counters.recordFailure]
      split <;> exact hcommits
    | ok sample =>
      simp only [completion?, refresh, hsample, Option.toList_some, List.singleton_append]
      refine ⟨?_, ?_⟩
      · rw [complete_estimate]
        exact h.estimate.absorb ratio settings sample
      · cases (e.estimate.absorb ratio settings sample).1 with
        | unchanged =>
          rw [List.countP_cons_of_neg Bool.false_ne_true]
          exact hcommits
        | committed ticks =>
          rw [List.countP_cons_of_pos rfl]
          exact ofNat_succ_of_eq hcommits

/-- What a refresh completes has the outcome that it answers with, and a failed refresh completes
nothing. -/
theorem completion?_outcome (m : Machine σ) (converter : Converter) (settings : Settings)
    (e : Estimator) (s : σ) :
    (e.completion? m converter settings s).map Completion.outcome =
      (e.refresh m converter settings s).1.toOption := by
  cases converter with
  | degraded => rfl
  | calibrated ratio =>
    rcases hsample : takeSample m settings e.counters.recordAttempt s with ⟨answer, counters, t⟩
    cases answer with
    | error error => simp [completion?, refresh, hsample, Except.toOption]
    | ok sample => simp [completion?, refresh, hsample, Except.toOption]

end Estimator

end SoftClock
