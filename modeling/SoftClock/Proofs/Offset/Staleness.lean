import SoftClock.Proofs.Offset.Refresh
import SoftClock.Proofs.Time.Exact

/-!
# Stale Estimates

A completed estimate is stamped with the wall time of its sample, and is stale at a reading of the
wall clock that is later by more than an interval. Stamp and reading are counts of microseconds,
each of them clamped to the signed words, and so is their difference. The interval is truncated to
microseconds.

* `Duration.micros_lt_iff`: truncating the interval loses nothing, because the difference is whole.
* `Estimator.AgesFrom` says what being stale means for exact times. Both times have to be clamped as
  their exact totals would be (`Timeval.ClampsOnce`); otherwise a reading before the stamp can be
  stale.
* `Estimator.agesFrom_of_stamp` is the main result: it holds of the time that was stamped.
-/

namespace SoftClock

/-- A span of whole microseconds is longer than a duration if and only if it is longer than the
duration truncated to microseconds. -/
theorem Duration.micros_lt_iff (d : Duration) (span : ℤ) :
    (d.micros : ℤ) < span ↔ (d.nanos : ℤ) < span * 1000 := by
  unfold Duration.micros
  omega

/-- Truncation to microseconds keeps the order of durations. -/
theorem Duration.micros_le {shorter longer : Duration} (h : shorter.nanos ≤ longer.nanos) :
    shorter.micros ≤ longer.micros :=
  Nat.div_le_div_right h

namespace Estimator

variable {e : Estimator} {now later last : Timeval} {interval shorter longer : Duration}

/-- An estimate is stale if the clamped difference of the counts exceeds the interval. -/
theorem isStale_iff : e.isStale now interval = true ↔
    (interval.micros : ℤ) < max (-0x8000000000000000)
      (min (now.micros.toInt - e.validatedAt.toInt) 0x7fffffffffffffff) := by
  rw [isStale, decide_eq_true_iff, toInt_saturatingSub]

/-- A reading whose count is not above the stamp is fresh. -/
theorem isStale_eq_false_of_micros_le (hle : now.micros.toInt ≤ e.validatedAt.toInt) :
    e.isStale now interval = false := by
  rw [← Bool.not_eq_true, isStale_iff]
  omega

/-- What is stale at a reading is stale at every reading with a larger count. -/
theorem isStale_of_micros_le (hle : now.micros.toInt ≤ later.micros.toInt)
    (hstale : e.isStale now interval) : e.isStale later interval := by
  rw [isStale_iff] at hstale ⊢
  omega

/-- What is stale by an interval is stale by every shorter one. -/
theorem isStale_of_nanos_le (hle : shorter.nanos ≤ longer.nanos)
    (hstale : e.isStale now longer) : e.isStale now shorter := by
  have hmicros := Duration.micros_le hle
  rw [isStale_iff] at hstale ⊢
  omega

/-- Being stale is being older than the interval, counted from a wall time. -/
structure AgesFrom (e : Estimator) (last : Timeval) : Prop where
  /-- Where the counts of both times and their difference fit signed words, they are compared
  exactly. -/
  exact : ∀ (now : Timeval) (interval : Duration), now.ClampsOnce → last.ClampsOnce →
    now.FitsMicros → last.FitsMicros → now.exactMicros - last.exactMicros ≤ 0x7fffffffffffffff →
    (e.isStale now interval ↔ (interval.nanos : ℤ) < now.exactNanos - last.exactNanos)
  /-- A reading at or before that time is fresh. -/
  fresh : ∀ (now : Timeval) (interval : Duration), now.ClampsOnce → last.ClampsOnce →
    now.exactNanos ≤ last.exactNanos → e.isStale now interval = false
  /-- What is stale at a reading is stale at every later one. -/
  mono : ∀ (now later : Timeval) (interval : Duration), now.ClampsOnce → later.ClampsOnce →
    now.exactNanos ≤ later.exactNanos → e.isStale now interval → e.isStale later interval
  /-- What is stale by an interval is stale by every shorter one. -/
  anti : ∀ (now : Timeval) (shorter longer : Duration), shorter.nanos ≤ longer.nanos →
    e.isStale now longer → e.isStale now shorter

/-- Exact counts are compared exactly. -/
theorem isStale_iff_exact (hstamp : e.validatedAt = last.micros) (hnow : now.ClampsOnce)
    (hlast : last.ClampsOnce) (hnowFits : now.FitsMicros) (hlastFits : last.FitsMicros)
    (hspan : now.exactMicros - last.exactMicros ≤ 0x7fffffffffffffff) :
    e.isStale now interval ↔ (interval.nanos : ℤ) < now.exactNanos - last.exactNanos := by
  have hscaled : now.exactNanos - last.exactNanos =
      (now.exactMicros - last.exactMicros) * 1000 := by
    rw [Timeval.exactNanos_eq_exactMicros, Timeval.exactNanos_eq_exactMicros]
    omega
  rw [isStale_iff, hstamp, hnow.toInt_micros hnowFits, hlast.toInt_micros hlastFits, hscaled,
    ← interval.micros_lt_iff]
  -- a difference that clamping raises is negative, and is no longer than any interval
  have hnonneg : 0 ≤ (interval.micros : ℤ) := Int.natCast_nonneg _
  omega

/-- A stamped estimate ages from the time of its stamp. -/
theorem agesFrom_of_stamp (hstamp : e.validatedAt = last.micros) : e.AgesFrom last where
  exact _ _ hnow hlast hnowFits hlastFits hspan :=
    isStale_iff_exact hstamp hnow hlast hnowFits hlastFits hspan
  fresh now _ hnow hlast hle := by
    apply isStale_eq_false_of_micros_le
    rw [hstamp]
    exact hnow.micros_le hlast hle
  mono _ _ _ hnow hlater hle := isStale_of_micros_le (hnow.micros_le hlater hle)
  anti _ _ _ hle := isStale_of_nanos_le hle

end Estimator

end SoftClock
