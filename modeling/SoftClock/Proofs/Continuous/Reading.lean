import SoftClock.Continuous
import SoftClock.Proofs.Offset.Refresh

/-!
# What a Continuous Read Does

A read of the continuous count estimates the sleep offset first if it has to, and then adds the
published offset to one counter read.

* `Continuous.attempt?` is the outcome of the estimate that a read makes, if it makes one, which the
  read itself ignores;
* `Continuous.addend` is what the count adds to the counter: the published offset, or nothing in
  fallback mode;
* `Continuous.readWith_prepared` is the case analysis of a read in these terms;
* `ReadsAgree.readWith` and its companions: agreeing machines are read alike.
-/

namespace SoftClock

variable {σ τ : Type} {m : Machine σ} {n : Machine τ} {R : σ → τ → Prop}

namespace Continuous

/-- The outcome of the estimate that a continuous read makes first, if it makes one. -/
def attempt? (m : Machine σ) (converter : Converter) (settings : Settings) (c : Continuous)
    (s : σ) : Option (Except ClockError RefreshOutcome) :=
  match c.mode with
  | .rawFallback => none
  | .auto | .sleepAware =>
    match c.needsRefresh m s with
    | (true, s) => some (c.refresh m converter settings s).1
    | (false, _) => none

/-- What the count adds to the counter. -/
def addend (c : Continuous) : UInt64 :=
  match c.mode with
  | .rawFallback => 0
  | .auto | .sleepAware => c.estimator.published

/-- How a count and a machine come out of the part of an operation that may estimate: without an
attempt after some reads, or with the attempt that follows them. -/
inductive Prepared (m : Machine σ) (converter : Converter) (settings : Settings) (c : Continuous)
    (s : σ) : Option (Except ClockError RefreshOutcome) → Continuous → σ → Prop
  | idle {t : σ} : m.Reads s t → Prepared m converter settings c s none c t
  | attempted {t u : σ} {outcome : Except ClockError RefreshOutcome} {estimator : Estimator} :
    m.Reads s t → c.estimator.refresh m converter settings t = (outcome, estimator, u) →
      Prepared m converter settings c s (some outcome) { c with estimator } u

/-- Preparing only reads the machine. -/
theorem Prepared.reads {converter : Converter} {settings : Settings} {c c' : Continuous} {s t : σ}
    {outcome? : Option (Except ClockError RefreshOutcome)}
    (h : Prepared m converter settings c s outcome? c' t) : m.Reads s t := by
  cases h with
  | idle hreads => exact hreads
  | attempted hreads hrefresh => exact hreads.trans (Estimator.refresh_reads hrefresh)

/-- Asking whether to estimate only reads the machine. -/
theorem needsRefresh_reads (m : Machine σ) (c : Continuous) (s : σ) :
    m.Reads s (c.needsRefresh m s).2 := by
  rw [needsRefresh]
  split
  · split
    · exact .refl s
    · rcases hwall : m.wall s with ⟨answer, t⟩
      cases answer with
      | ok now => exact .of_wall hwall
      | error e => exact .of_wall hwall
  · exact .refl s

/-- An estimate on request is an attempt right away. -/
theorem refresh_prepared {converter : Converter} {settings : Settings} {c c' : Continuous} {s t : σ}
    {outcome : Except ClockError RefreshOutcome}
    (h : c.refresh m converter settings s = (outcome, c', t)) :
    Prepared m converter settings c s (some outcome) c' t := by
  rw [refresh] at h
  rcases hrefresh : c.estimator.refresh m converter settings s with ⟨outcome', e, u⟩
  rw [hrefresh] at h
  cases h
  exact .attempted (.refl s) hrefresh

/-- The modes that count time asleep add the published offset. -/
theorem addend_of_ne_rawFallback {c : Continuous} (hmode : c.mode ≠ .rawFallback) :
    c.addend = c.estimator.published := by
  cases h : c.mode with
  | rawFallback => contradiction
  | auto | sleepAware => simp only [addend, h]

/-- The modes that count time asleep prepare the count, and then read the counter. -/
theorem readWith_of_ne_rawFallback {c : Continuous} (hmode : c.mode ≠ .rawFallback)
    (read : σ → UInt64 × σ) (m : Machine σ) (converter : Converter) (settings : Settings) (s : σ) :
    c.readWith read m converter settings s =
      ((read (c.prepare m converter settings s).2).1 +
          (c.prepare m converter settings s).1.estimator.published,
        (c.prepare m converter settings s).1, (read (c.prepare m converter settings s).2).2) := by
  cases h : c.mode with
  | rawFallback => contradiction
  | auto | sleepAware => simp only [readWith, h]

/-- A read prepares, reads the counter once, and adds the addend that preparing left. -/
theorem readWith_prepared (read : σ → UInt64 × σ) (m : Machine σ) (converter : Converter)
    (settings : Settings) (c : Continuous) (s : σ) :
    ∃ c' t, Prepared m converter settings c s (c.attempt? m converter settings s) c' t ∧
      c.readWith read m converter settings s = ((read t).1 + c'.addend, c', (read t).2) := by
  have hreads := needsRefresh_reads m c s
  by_cases hmode : c.mode = .rawFallback
  · refine ⟨c, s, ?_, ?_⟩
    · simp only [attempt?, hmode]
      exact .idle (.refl s)
    · simp [readWith, addend, hmode]
  · rcases hneeds : c.needsRefresh m s with ⟨needed, t⟩
    rw [hneeds] at hreads
    cases needed with
    | false =>
      have hattempt : c.attempt? m converter settings s = none := by
        cases h : c.mode <;> simp only [attempt?, h, hneeds]
      refine ⟨c, t, ?_, ?_⟩
      · rw [hattempt]
        exact .idle hreads
      · rw [readWith_of_ne_rawFallback hmode, addend_of_ne_rawFallback hmode]
        simp only [prepare, hneeds]
    | true =>
      rcases hrefresh : c.estimator.refresh m converter settings t with ⟨outcome, e, u⟩
      have hattempt : c.attempt? m converter settings s = some outcome := by
        cases h : c.mode with
        | rawFallback => contradiction
        | auto | sleepAware => simp only [attempt?, h, hneeds, refresh, hrefresh]
      -- the estimator is replaced, and the mode is not
      have haddend : addend { c with estimator := e } = e.published :=
        addend_of_ne_rawFallback hmode
      refine ⟨{ c with estimator := e }, u, ?_, ?_⟩
      · rw [hattempt]
        exact .attempted hreads hrefresh
      · rw [readWith_of_ne_rawFallback hmode, haddend]
        simp only [prepare, hneeds, refresh, hrefresh]

end Continuous

/-! ## Agreement -/

namespace Machine.ReadsAgree

/-- Agreeing machines are asked alike whether to estimate. -/
theorem needsRefresh (h : m.ReadsAgree n R) (c : Continuous) {s : σ} {t : τ} (hst : R s t) :
    Agree R (c.needsRefresh m s) (c.needsRefresh n t) := by
  simp only [Continuous.needsRefresh]
  split
  · split
    · exact ⟨rfl, hst⟩
    · obtain ⟨answer, s', t', hm, hn, h'⟩ := (h.wall hst).cases
      rw [hm, hn]
      cases answer with
      | ok now => exact ⟨rfl, h'⟩
      | error e => exact ⟨rfl, h'⟩
  · exact ⟨rfl, hst⟩

/-- Agreeing machines give the same estimate. -/
theorem refreshCount (h : m.ReadsAgree n R) (converter : Converter) (settings : Settings)
    (c : Continuous) {s : σ} {t : τ} (hst : R s t) :
    Agree (Agree R) (c.refresh m converter settings s) (c.refresh n converter settings t) := by
  obtain ⟨outcome, ⟨e, s'⟩, ⟨_, t'⟩, hm, hn, rfl, h'⟩ :=
    (h.refresh converter settings c.estimator hst).cases
  simp only [Continuous.refresh, hm, hn]
  exact ⟨rfl, rfl, h'⟩

/-- Agreeing machines make the same attempt. -/
theorem attempt? (h : m.ReadsAgree n R) (converter : Converter) (settings : Settings)
    (c : Continuous) {s : σ} {t : τ} (hst : R s t) :
    c.attempt? m converter settings s = c.attempt? n converter settings t := by
  obtain ⟨needed, s', t', hm, hn, h'⟩ := (h.needsRefresh c hst).cases
  have hrefresh := (h.refreshCount converter settings c h').1
  simp only [Continuous.attempt?, hm, hn]
  cases needed with
  | true => simp only [hrefresh]
  | false => rfl

/-- Agreeing machines are prepared alike. -/
theorem prepare (h : m.ReadsAgree n R) (converter : Converter) (settings : Settings)
    (c : Continuous) {s : σ} {t : τ} (hst : R s t) :
    Agree R (c.prepare m converter settings s) (c.prepare n converter settings t) := by
  obtain ⟨needed, s', t', hm, hn, h'⟩ := (h.needsRefresh c hst).cases
  rw [Continuous.prepare, Continuous.prepare, hm, hn]
  cases needed with
  | true => exact (h.refreshCount converter settings c h').2
  | false => exact ⟨rfl, h'⟩

/-- Agreeing machines give the same count, by counters that agree. -/
theorem readWith (h : m.ReadsAgree n R) {read : σ → UInt64 × σ} {read' : τ → UInt64 × τ}
    (hread : ∀ {s t}, R s t → Agree R (read s) (read' t)) (converter : Converter)
    (settings : Settings) (c : Continuous) {s : σ} {t : τ} (hst : R s t) :
    Agree (Agree R) (c.readWith read m converter settings s)
      (c.readWith read' n converter settings t) := by
  rw [Continuous.readWith, Continuous.readWith]
  split
  · obtain ⟨ticks, s', t', hm, hn, h'⟩ := (hread hst).cases
    rw [hm, hn]
    exact ⟨rfl, rfl, h'⟩
  all_goals
    obtain ⟨c', s', t', hm, hn, h'⟩ := (h.prepare converter settings c hst).cases
    obtain ⟨ticks, s'', t'', hm', hn', h''⟩ := (hread h').cases
    simp only [hm, hn, hm', hn']
    exact ⟨rfl, rfl, h''⟩

end Machine.ReadsAgree

end SoftClock
