import SoftClock.Proofs.Machine.Agreement
import SoftClock.Proofs.Offset.Steps
import Mathlib.Data.Nat.Notation

/-!
# What Sampling Does

Three facts about `takeSample` and the functions it is made of.

* Agreeing machines are sampled alike (`ReadsAgree.takeSample`), so the search for a pair only reads
  the machine (`bestPair_reads`).
* A completed pair was seen on the machine: `Machine.Observes` says that the wall clock was read
  once, and then between two counter reads that follow it directly, with another value
  (`bestPair_observes`). A completed sample was seen between two equal boot times
  (`takeSample_observes`).
* Of the counters, sampling moves only those of restarts and brackets, and it restarts once more
  than allowed at most (`takeSample_gathered`).
-/

namespace SoftClock

variable {σ τ : Type} {m : Machine σ} {n : Machine τ} {R : σ → τ → Prop}

/-- Settings under which an estimate takes a few reads only, for runs that are evaluated. -/
def Settings.brief : Settings := { samplesPerAttempt := 1, maxWallPolls := 2 }

/-! ## Agreement -/

namespace Machine.ReadsAgree

/-- Agreeing machines are polled alike. -/
theorem awaitChange (h : m.ReadsAgree n R) (allowed : UInt32) (start : Timeval) (polls : ℕ)
    {s : σ} {t : τ} (hst : R s t) :
    Agree R (awaitChange m allowed start polls s) (awaitChange n allowed start polls t) := by
  induction polls generalizing s t with
  | zero => exact ⟨rfl, hst⟩
  | succ polls ih =>
    -- a poll reads the counter, the wall clock and the counter again
    obtain ⟨before, s₁, t₁, hm₁, hn₁, h₁⟩ := (h.ticks hst).cases
    obtain ⟨answer, s₂, t₂, hm₂, hn₂, h₂⟩ := (h.wall h₁).cases
    simp only [SoftClock.awaitChange, hm₁, hn₁, hm₂, hn₂]
    cases answer with
    | error e => exact ⟨rfl, h₂⟩
    | ok wall =>
      obtain ⟨after, s₃, t₃, hm₃, hn₃, h₃⟩ := (h.ticks h₂).cases
      simp only [hm₃, hn₃]
      split
      · -- the wall clock still shows the start
        exact ih h₃
      · exact ⟨rfl, h₃⟩

/-- Agreeing machines give the same pair. -/
theorem pairOnce (h : m.ReadsAgree n R) (allowed : UInt32) {s : σ} {t : τ} (hst : R s t) :
    Agree R (pairOnce m allowed s) (pairOnce n allowed t) := by
  obtain ⟨answer, s₁, t₁, hm₁, hn₁, h₁⟩ := (h.wall hst).cases
  simp only [SoftClock.pairOnce, hm₁, hn₁]
  cases answer with
  | error e => exact ⟨rfl, h₁⟩
  | ok start => exact h.awaitChange allowed start allowed.toNat h₁

/-- Agreeing machines give the same improvement of a pair. -/
theorem improvePair (h : m.ReadsAgree n R) (allowed : UInt32) (more : ℕ) (best : PairedSample)
    (c : Counters) {s : σ} {t : τ} (hst : R s t) :
    Agree (Agree R) (improvePair m allowed more best c s)
      (improvePair n allowed more best c t) := by
  induction more generalizing best c s t with
  | zero => exact ⟨rfl, rfl, hst⟩
  | succ more ih =>
    obtain ⟨answer, s₁, t₁, hm₁, hn₁, h₁⟩ := (h.pairOnce allowed hst).cases
    simp only [SoftClock.improvePair, hm₁, hn₁]
    cases answer with
    | error e => exact ⟨rfl, rfl, h₁⟩
    | ok pair => exact ih _ _ h₁

/-- Agreeing machines give the same best pair. -/
theorem bestPair (h : m.ReadsAgree n R) (settings : Settings) (c : Counters) {s : σ} {t : τ}
    (hst : R s t) : Agree (Agree R) (bestPair m settings c s) (bestPair n settings c t) := by
  obtain ⟨answer, s₁, t₁, hm₁, hn₁, h₁⟩ := (h.pairOnce settings.maxWallPolls hst).cases
  simp only [SoftClock.bestPair, hm₁, hn₁]
  cases answer with
  | error e => exact ⟨rfl, rfl, h₁⟩
  | ok pair => exact h.improvePair _ _ _ _ h₁

/-- Agreeing machines are sampled alike within a number of runs. -/
theorem sampleRuns (h : m.ReadsAgree n R) (settings : Settings) (runs : ℕ) (c : Counters)
    {s : σ} {t : τ} (hst : R s t) :
    Agree (Agree R) (sampleRuns m settings runs c s) (sampleRuns n settings runs c t) := by
  induction runs generalizing c s t with
  | zero => exact ⟨rfl, rfl, hst⟩
  | succ runs ih =>
    obtain ⟨answer, s₁, t₁, hm₁, hn₁, h₁⟩ := (h.boot hst).cases
    simp only [SoftClock.sampleRuns, hm₁, hn₁]
    cases answer with
    | error e => exact ⟨rfl, rfl, h₁⟩
    | ok boot =>
      obtain ⟨pairing, ⟨c₂, s₂⟩, ⟨_, t₂⟩, hm₂, hn₂, rfl, h₂⟩ := (h.bestPair settings c h₁).cases
      simp only [hm₂, hn₂]
      cases pairing with
      | error e => exact ⟨rfl, rfl, h₂⟩
      | ok pair =>
        -- the boot time is read again, and the sample is kept if it stands
        obtain ⟨again, s₃, t₃, hm₃, hn₃, h₃⟩ := (h.boot h₂).cases
        simp only [hm₃, hn₃]
        cases again with
        | error e => exact ⟨rfl, rfl, h₃⟩
        | ok bootAfter =>
          dsimp only
          split
          · exact ⟨rfl, rfl, h₃⟩
          · exact ih _ h₃

/-- Agreeing machines are sampled alike. -/
theorem takeSample (h : m.ReadsAgree n R) (settings : Settings) (c : Counters) {s : σ} {t : τ}
    (hst : R s t) : Agree (Agree R) (takeSample m settings c s) (takeSample n settings c t) :=
  h.sampleRuns settings _ c hst

end Machine.ReadsAgree

/-! ## Sampling only reads -/

/-- A poll reads the counter, the wall clock and the counter again. -/
theorem Machine.Reads.of_poll {s d e f : σ} {before after : UInt64}
    {polled : Except ClockError Timeval} (hbefore : m.ticks s = (before, d))
    (hwall : m.wall d = (polled, e)) (hafter : m.ticks e = (after, f)) : m.Reads s f :=
  ((Machine.Reads.of_ticks hbefore).trans (.of_wall hwall)).trans (.of_ticks hafter)

theorem pairOnce_reads {allowed : UInt32} {s t : σ} {answer : Except ClockError PairedSample}
    (h : pairOnce m allowed s = (answer, t)) : m.Reads s t := by
  have hreads := (Machine.ReadsAgree.reads m s).pairOnce allowed ⟨rfl, .refl s⟩
  rw [h] at hreads
  exact hreads.2.2

theorem improvePair_reads {allowed : UInt32} {more : ℕ} {best : PairedSample} {c c' : Counters}
    {s t : σ} {answer : Except ClockError PairedSample}
    (h : improvePair m allowed more best c s = (answer, c', t)) : m.Reads s t := by
  have hreads := (Machine.ReadsAgree.reads m s).improvePair allowed more best c ⟨rfl, .refl s⟩
  rw [h] at hreads
  exact hreads.2.2.2

theorem bestPair_reads {settings : Settings} {c c' : Counters} {s t : σ}
    {answer : Except ClockError PairedSample}
    (h : bestPair m settings c s = (answer, c', t)) : m.Reads s t := by
  have hreads := (Machine.ReadsAgree.reads m s).bestPair settings c ⟨rfl, .refl s⟩
  rw [h] at hreads
  exact hreads.2.2.2

/-! ## What a sample was seen as -/

/-- Between two states of a machine a pair was seen: the wall clock read `start`, and in a later
poll, directly between the two counter reads, something else. -/
inductive Machine.Observes (m : Machine σ) (s t : σ) : PairedSample → Prop
  | intro {a b c d e f : σ} {start wall : Timeval} {before after : UInt64} :
    m.Reads s a → m.wall a = (.ok start, b) → m.Reads b c →
    m.ticks c = (before, d) → m.wall d = (.ok wall, e) → m.ticks e = (after, f) →
    wall ≠ start → m.Reads f t → m.Observes s t ⟨wall, before, after⟩

/-- A pair seen between two states was also seen between an earlier and a later one. -/
theorem Machine.Observes.weaken {s s' t t' : σ} {p : PairedSample} (h : m.Observes s t p)
    (hs : m.Reads s' s) (ht : m.Reads t t') : m.Observes s' t' p := by
  cases h with
  | intro hsa hstart hbc hbefore hwall hafter hne hft =>
    exact .intro (hs.trans hsa) hstart hbc hbefore hwall hafter hne (hft.trans ht)

/-- Polling that ends with a pair ended at a poll that differs from the start. -/
theorem awaitChange_ok {allowed : UInt32} {start : Timeval} {polls : ℕ} {s t : σ} {p : PairedSample}
    (h : awaitChange m allowed start polls s = (.ok p, t)) :
    ∃ c d e, m.Reads s c ∧ m.ticks c = (p.before, d) ∧ m.wall d = (.ok p.wall, e) ∧
      m.ticks e = (p.after, t) ∧ p.wall ≠ start := by
  induction polls generalizing s with
  | zero => cases h
  | succ polls ih =>
    cases awaitChange_succ h with
    | changed hbefore hwall hafter hne => exact ⟨s, _, _, .refl s, hbefore, hwall, hafter, hne⟩
    | idle hbefore hwall hafter hrest =>
      -- a later poll ends it
      obtain ⟨c, d, e, hreads, hfound⟩ := ih hrest
      exact ⟨c, d, e, (Machine.Reads.of_poll hbefore hwall hafter).trans hreads, hfound⟩

/-- A completed pair was seen. -/
theorem pairOnce_observes {allowed : UInt32} {s t : σ} {p : PairedSample}
    (h : pairOnce m allowed s = (.ok p, t)) : m.Observes s t p := by
  obtain ⟨error, -, hanswer⟩ | ⟨start, b, hstart, hpolls⟩ := pairOnce_cases h
  · cases hanswer
  · obtain ⟨c, d, e, hreads, hbefore, hwall, hafter, hne⟩ := awaitChange_ok hpolls
    exact .intro (.refl s) hstart hreads hbefore hwall hafter hne (.refl t)

/-- An improved pair is the one it started from, or was seen. -/
theorem improvePair_observes {allowed : UInt32} {more : ℕ} {best p : PairedSample}
    {c c' : Counters} {s t : σ} (h : improvePair m allowed more best c s = (.ok p, c', t)) :
    p = best ∨ m.Observes s t p := by
  induction more generalizing best c s with
  | zero =>
    cases h
    exact .inl rfl
  | succ more ih =>
    obtain ⟨error, -, hanswer, -⟩ | ⟨pair, u, hpair, hmore⟩ := improvePair_succ h
    · cases hanswer
    · have hrest : m.Reads u t := improvePair_reads hmore
      rcases ih hmore with htighter | hobs
      · -- the pair of this round, or the best one before it
        rw [PairedSample.tighter] at htighter
        split at htighter
        · exact .inr (htighter ▸ (pairOnce_observes hpair).weaken (.refl s) hrest)
        · exact .inl htighter
      · exact .inr (hobs.weaken (pairOnce_reads hpair) (.refl t))

/-- The best pair was seen. -/
theorem bestPair_observes {settings : Settings} {p : PairedSample} {c c' : Counters} {s t : σ}
    (h : bestPair m settings c s = (.ok p, c', t)) : m.Observes s t p := by
  obtain ⟨error, -, hanswer, -⟩ | ⟨pair, u, hpair, hmore⟩ := bestPair_cases h
  · cases hanswer
  · rcases improvePair_observes hmore with rfl | hobs
    · exact (pairOnce_observes hpair).weaken (.refl s) (improvePair_reads hmore)
    · exact hobs.weaken (pairOnce_reads hpair) (.refl t)

/-- Between two states of a machine a sample was seen: its pair, between two reads of its boot
time. -/
inductive Machine.ObservesSample (m : Machine σ) (s t : σ) : BootSample → Prop
  | intro {a b c : σ} {boot : Timeval} {pair : PairedSample} :
    m.Reads s a → m.boot a = (.ok boot, b) → m.Observes b c pair → m.boot c = (.ok boot, t) →
    m.ObservesSample s t ⟨boot, pair⟩

/-- A sample that completes within a number of runs was seen in the last of them. -/
theorem sampleRuns_observes {settings : Settings} {runs : ℕ} {sample : BootSample}
    {c c' : Counters} {s t : σ} (h : sampleRuns m settings runs c s = (.ok sample, c', t)) :
    m.ObservesSample s t sample := by
  induction runs generalizing c s with
  | zero => cases h
  | succ runs ih =>
    cases sampleRuns_succ h with
    | stands hboot hpair hagain =>
      exact .intro (.refl s) hboot (bestPair_observes hpair) hagain
    | moved hboot hpair hagain _ hrest =>
      -- the sample is from a later run
      have hrun : m.Reads s _ :=
        ((Machine.Reads.of_boot hboot).trans (bestPair_reads hpair)).trans (.of_boot hagain)
      cases ih hrest with
      | intro hsa hfirst hobs hlast => exact .intro (hrun.trans hsa) hfirst hobs hlast

/-- A completed sample was seen. -/
theorem takeSample_observes {settings : Settings} {sample : BootSample} {c c' : Counters} {s t : σ}
    (h : takeSample m settings c s = (.ok sample, c', t)) : m.ObservesSample s t sample :=
  sampleRuns_observes h

/-! ## What sampling does to the counters -/

/-- Counters that differ at most in what sampling counts. -/
structure Counters.Sampled (c c' : Counters) : Prop where
  attempts : c'.attempts = c.attempts
  commits : c'.commits = c.commits
  rejections : c'.rejections = c.rejections
  exhausted : c'.exhausted = c.exhausted
  readFailures : c'.readFailures = c.readFailures

/-- Counters after sampling with a number of restarts: these are counted, and the best bracket is at
most replaced by a tighter one. -/
structure Counters.Gathered (restarts : ℕ) (c c' : Counters) : Prop extends
    Counters.Sampled c c' where
  bootRestarts : c'.bootRestarts = c.bootRestarts + .ofNat restarts
  bestBracket : ∀ best, c.bestBracket = some best →
    ∃ best', c'.bestBracket = some best' ∧ best' ≤ best

namespace Counters.Gathered

theorem refl (c : Counters) : Gathered 0 c c where
  attempts := rfl
  commits := rfl
  rejections := rfl
  exhausted := rfl
  readFailures := rfl
  bootRestarts := (UInt64.add_zero _).symm
  bestBracket best hbest := ⟨best, hbest, UInt64.le_refl _⟩

theorem trans {c c' c'' : Counters} {restarts restarts' : ℕ} (h : Gathered restarts c c')
    (h' : Gathered restarts' c' c'') : Gathered (restarts + restarts') c c'' where
  attempts := h'.attempts.trans h.attempts
  commits := h'.commits.trans h.commits
  rejections := h'.rejections.trans h.rejections
  exhausted := h'.exhausted.trans h.exhausted
  readFailures := h'.readFailures.trans h.readFailures
  bootRestarts := by
    rw [h'.bootRestarts, h.bootRestarts, UInt64.add_assoc, UInt64.ofNat_add]
  bestBracket best hbest := by
    obtain ⟨best', hbest', hle⟩ := h.bestBracket best hbest
    obtain ⟨best'', hbest'', hle'⟩ := h'.bestBracket best' hbest'
    exact ⟨best'', hbest'', UInt64.le_trans hle' hle⟩

theorem recordBracket (c : Counters) (ticks : UInt64) : Gathered 0 c (c.recordBracket ticks) := by
  unfold Counters.recordBracket
  split
  · exact .refl c
  · refine ⟨⟨rfl, rfl, rfl, rfl, rfl⟩, (UInt64.add_zero _).symm, ?_⟩
    intro best hbest
    -- the bracket kept is the smaller of the two
    refine ⟨min ticks best, by simp [hbest], ?_⟩
    show (if ticks ≤ best then ticks else best) ≤ best
    split
    · assumption
    · exact UInt64.le_refl _

theorem recordBootRestart (c : Counters) : Gathered 1 c c.recordBootRestart :=
  ⟨⟨rfl, rfl, rfl, rfl, rfl⟩, rfl, fun best hbest => ⟨best, hbest, UInt64.le_refl _⟩⟩

end Counters.Gathered

theorem improvePair_gathered {allowed : UInt32} {more : ℕ} {best : PairedSample}
    {c c' : Counters} {s t : σ} {answer : Except ClockError PairedSample}
    (h : improvePair m allowed more best c s = (answer, c', t)) : c.Gathered 0 c' := by
  induction more generalizing best c s with
  | zero =>
    cases h
    exact .refl _
  | succ more ih =>
    obtain ⟨error, -, -, rfl⟩ | ⟨pair, u, -, hmore⟩ := improvePair_succ h
    · exact .refl c'
    · exact (Counters.Gathered.recordBracket c pair.bracket).trans (ih hmore)

theorem bestPair_gathered {settings : Settings} {c c' : Counters} {s t : σ}
    {answer : Except ClockError PairedSample}
    (h : bestPair m settings c s = (answer, c', t)) : c.Gathered 0 c' := by
  obtain ⟨error, -, -, rfl⟩ | ⟨pair, u, -, hmore⟩ := bestPair_cases h
  · exact .refl c'
  · exact (Counters.Gathered.recordBracket c pair.bracket).trans (improvePair_gathered hmore)

/-- Sampling restarts once a run at most. -/
theorem sampleRuns_gathered {settings : Settings} {runs : ℕ} {c c' : Counters} {s t : σ}
    {answer : Except ClockError BootSample}
    (h : sampleRuns m settings runs c s = (answer, c', t)) :
    ∃ restarts ≤ runs, c.Gathered restarts c' := by
  induction runs generalizing c s with
  | zero =>
    cases h
    exact ⟨0, Nat.le_refl _, .refl _⟩
  | succ runs ih =>
    have hbefore : 0 ≤ runs + 1 := Nat.zero_le _
    cases sampleRuns_succ h with
    | unreadable => exact ⟨0, hbefore, .refl _⟩
    | unpaired _ hpair => exact ⟨0, hbefore, bestPair_gathered hpair⟩
    | unconfirmed _ hpair _ => exact ⟨0, hbefore, bestPair_gathered hpair⟩
    | stands _ hpair _ => exact ⟨0, hbefore, bestPair_gathered hpair⟩
    | moved _ hpair _ _ hrest =>
      -- this run is one restart, and the runs that are left make the others
      obtain ⟨restarts, hle, hgathered⟩ := ih hrest
      refine ⟨0 + 1 + restarts, by omega, ?_⟩
      exact ((bestPair_gathered hpair).trans (.recordBootRestart _)).trans hgathered

/-- Sampling counts restarts and brackets only, and restarts at most once more than allowed. -/
theorem takeSample_gathered {settings : Settings} {c c' : Counters} {s t : σ}
    {answer : Except ClockError BootSample}
    (h : takeSample m settings c s = (answer, c', t)) :
    ∃ restarts ≤ settings.maxBootRestarts.toNat + 1, c.Gathered restarts c' :=
  sampleRuns_gathered h

end SoftClock
