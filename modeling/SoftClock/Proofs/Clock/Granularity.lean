import SoftClock.Machine.Scripted
import SoftClock.Proofs.Clock.Operations
import SoftClock.Proofs.Time.Totals
import SoftClock.Proofs.Timebase.Resolution
import Mathlib.Data.Nat.Dist

/-!
# The Granularity of the Monotonic Clock

Two times that `monotonic` shows are floors to microseconds of converted counts, while its
resolution is the length of a tick, rounded up, and a microsecond at least. The two roundings do not
always fit together.

* `Ratio.finestGap` is the smallest distance of different times shown: a microsecond, or the whole
  microseconds of a tick if these are more. `Ratio.spacedBy_iff` says so: no smaller distance occurs
  (`Ratio.shown_sameOrApart`), and this one does (`Ratio.exists_finestGap`).
* The resolution is as small exactly where a tick is no longer than a microsecond or a whole number
  of microseconds (`Ratio.resolution_le_finestGap_iff`). A tick of a microsecond and a half is
  neither, and is shown with steps of one microsecond.
* `Clock.monotonic_spacedByResolution_iff` states this for a clock.
-/

namespace SoftClock

/-- Two times are the same, or at least so many nanoseconds apart. -/
def SameOrApart (gap : ℕ) (a b : UInt64) : Prop := a = b ∨ gap ≤ Nat.dist a.toNat b.toNat

namespace SameOrApart

variable {gap more : ℕ} {a b : UInt64}

instance (gap : ℕ) (a b : UInt64) : Decidable (SameOrApart gap a b) :=
  inferInstanceAs (Decidable (_ ∨ _))

theorem symm (h : SameOrApart gap a b) : SameOrApart gap b a :=
  h.imp Eq.symm fun hle => by rwa [Nat.dist_comm]

theorem mono (h : SameOrApart more a b) (hle : gap ≤ more) : SameOrApart gap a b :=
  h.imp_right hle.trans

end SameOrApart

namespace Ratio

/-- The product of a count of ticks and the multiplier fits a word, so that its conversion does not
saturate. -/
def Fits (r : Ratio) (ticks : UInt64) : Prop :=
  ticks.toNat * r.multiplier.toNat / 2 ^ (32 + r.extraBits) ≤ 0xffffffffffffffff

instance (r : Ratio) (ticks : UInt64) : Decidable (r.Fits ticks) :=
  inferInstanceAs (Decidable (_ ≤ _))

/-- The time that `monotonic` shows for a continuous count of ticks. -/
def shown (r : Ratio) (ticks : UInt64) : UInt64 := floorToMicros (r.ticksToNanos ticks)

/-- Different times shown are at least so many nanoseconds apart, but for saturated ones. -/
def SpacedBy (r : Ratio) (gap : ℕ) : Prop :=
  ∀ t u : UInt64, r.Fits t → r.Fits u → SameOrApart gap (r.shown t) (r.shown u)

/-- The whole microseconds of a tick, or one if it has none. -/
def finestGap (r : Ratio) : ℕ := max (r.scale.numer.toNat / r.scale.denom.toNat / 1000 * 1000) 1000

variable {r : Ratio} {t u : UInt64}

/-- The time shown, where the conversion does not saturate. -/
theorem toNat_shown (hfits : r.Fits t) :
    (r.shown t).toNat =
      t.toNat * r.multiplier.toNat / 2 ^ (32 + r.extraBits) / 1000 * 1000 := by
  rw [shown, toNat_floorToMicros, toNat_ticksToNanos, min_eq_left hfits]

/-! ## No smaller distance occurs -/

/-- The time of a later count is the same, or larger by the finest gap at least. -/
theorem shown_sameOrApart (ht : r.Fits t) (hu : r.Fits u) (hlt : t.toNat < u.toNat) :
    SameOrApart r.finestGap (r.shown t) (r.shown u) := by
  have hshown := toNat_shown ht
  have hshown' := toNat_shown hu
  -- one more tick adds its whole nanoseconds at least, and further ticks take nothing away
  have hstep := le_scaled_succ t.toNat r.multiplier.toNat (2 ^ (32 + r.extraBits))
  have hfurther : (t.toNat + 1) * r.multiplier.toNat / 2 ^ (32 + r.extraBits) ≤
      u.toNat * r.multiplier.toNat / 2 ^ (32 + r.extraBits) :=
    Nat.div_le_div_right (Nat.mul_le_mul_right _ hlt)
  have hadded := hstep.trans hfurther
  rw [multiplier_div] at hadded
  have hle := (Nat.le_add_right _ _).trans hadded
  by_cases hsame : (r.shown t).toNat = (r.shown u).toNat
  · exact .inl (UInt64.toNat_inj.mp hsame)
  · refine .inr ?_
    rw [finestGap, Nat.dist_eq_sub_of_le (by omega)]
    omega

/-! ## This distance occurs -/

/-- Nothing is shown for no ticks. -/
theorem shown_zero (r : Ratio) : r.Fits 0 ∧ (r.shown 0).toNat = 0 := by
  have hnone : (0 : UInt64).toNat * r.multiplier.toNat / 2 ^ (32 + r.extraBits) = 0 := by
    rw [UInt64.toNat_zero, Nat.zero_mul, Nat.zero_div]
  have hfits : r.Fits 0 := by
    rw [Fits, hnone]
    exact Nat.zero_le _
  exact ⟨hfits, by rw [toNat_shown hfits, hnone]⟩

/-- The first count of ticks that scales to a microsecond or more scales to the whole part of the
multiplier, or to less than two microseconds if that is less than one. -/
theorem exists_first_micro {m p : ℕ} (hm : 0 < m) (hp : 0 < p) :
    ∃ t, t * m < 1000 * p + m ∧ t * m / p / 1000 * 1000 = max (m / p / 1000 * 1000) 1000 := by
  rcases Nat.lt_or_ge (m / p) 1000 with hlt | hge
  · have hreached : 1000 * p ≤ m * (1000 * p ⌈/⌉ m) := (ceilDiv_le_iff_le_mul hm).mp le_rfl
    have hbefore : 1000 * p ⌈/⌉ m * m < 1000 * p + m := by
      have := Nat.div_mul_le_self (1000 * p + m - 1) m
      rw [Nat.ceilDiv_eq_add_pred_div]
      omega
    rw [Nat.mul_comm m] at hreached
    refine ⟨1000 * p ⌈/⌉ m, hbefore, ?_⟩
    have hlow : 1000 ≤ 1000 * p ⌈/⌉ m * m / p := (Nat.le_div_iff_mul_le hp).mpr hreached
    have hhigh : 1000 * p ⌈/⌉ m * m / p < 2000 := by
      rw [Nat.div_lt_iff_lt_mul hp] at hlt ⊢
      omega
    omega
  · -- a tick of a microsecond or more reaches it at once
    refine ⟨1, by omega, ?_⟩
    rw [Nat.one_mul]
    omega

/-- Some count of ticks is shown as the finest gap. -/
theorem exists_finestGap (r : Ratio) : ∃ t, r.Fits t ∧ (r.shown t).toNat = r.finestGap := by
  have hdenom := r.scale.denom.toNat_lt
  have hnumer := r.scale.numer.toNat_lt
  have hquotient := Nat.div_le_self r.scale.numer.toNat r.scale.denom.toNat
  -- a multiplier of nothing would not reach the scaled ratio
  have hscaled : 2 ^ (32 + r.extraBits) ≤ r.multiplier.toNat * r.scale.denom.toNat :=
    (Nat.le_mul_of_pos_left _ r.numer_pos).trans r.le_multiplier_mul
  have hmultiplier : 0 < r.multiplier.toNat :=
    Nat.pos_of_mul_pos_right ((Nat.two_pow_pos _).trans_le hscaled)
  obtain ⟨t, hbefore, hgap⟩ := exists_first_micro hmultiplier (Nat.two_pow_pos (32 + r.extraBits))
  -- a tick lasts a nanosecond over its denominator at least, so not many come before
  have ht : t < 1000 * r.scale.denom.toNat + 1 := by
    refine Nat.lt_of_mul_lt_mul_right (a := r.multiplier.toNat) (hbefore.trans_le ?_)
    calc 1000 * 2 ^ (32 + r.extraBits) + r.multiplier.toNat
        ≤ 1000 * (r.multiplier.toNat * r.scale.denom.toNat) + r.multiplier.toNat := by
          exact Nat.add_le_add_right (Nat.mul_le_mul_left _ hscaled) _
      _ = (1000 * r.scale.denom.toNat + 1) * r.multiplier.toNat := by ring
  have hword : (UInt64.ofNat t).toNat = t := UInt64.toNat_ofNat_of_lt (by change t < 2 ^ 64; omega)
  rw [multiplier_div] at hgap
  have hfits : r.Fits (.ofNat t) := by
    rw [Fits, hword]
    omega
  refine ⟨.ofNat t, hfits, ?_⟩
  rw [toNat_shown hfits, hword, hgap, finestGap]

/-- The finest gap is the largest distance that all different times shown keep. -/
theorem spacedBy_iff (r : Ratio) (gap : ℕ) : r.SpacedBy gap ↔ gap ≤ r.finestGap := by
  constructor
  · intro hspaced
    obtain ⟨hfits, hzero⟩ := r.shown_zero
    obtain ⟨t, hfits', hshown⟩ := r.exists_finestGap
    rcases hspaced 0 t hfits hfits' with hsame | hapart
    · have hpos : 1000 ≤ r.finestGap := le_max_right _ _
      rw [← hsame, hzero] at hshown
      omega
    · rwa [hzero, hshown, Nat.dist_eq_sub_of_le (Nat.zero_le _)] at hapart
  · intro hle t u ht hu
    rcases Nat.lt_trichotomy t.toNat u.toNat with hlt | heq | hlt
    · exact (shown_sameOrApart ht hu hlt).mono hle
    · exact .inl (congrArg r.shown (UInt64.toNat_inj.mp heq))
    · exact (shown_sameOrApart hu ht hlt).symm.mono hle

/-! ## The resolution -/

/-- The resolution is no more than the finest gap exactly if a tick is no longer than a microsecond
or a whole number of microseconds. -/
theorem resolution_le_finestGap_iff (r : Ratio) :
    max r.resolution.toNat 1000 ≤ r.finestGap ↔
      r.scale.numer.toNat ≤ 1000 * r.scale.denom.toNat ∨
        1000 * r.scale.denom.toNat ∣ r.scale.numer.toNat := by
  have hdenom := r.denom_pos
  have hgap : r.scale.denom.toNat * (r.scale.numer.toNat / r.scale.denom.toNat / 1000 * 1000) =
      r.scale.numer.toNat / (1000 * r.scale.denom.toNat) * (1000 * r.scale.denom.toNat) := by
    rw [Nat.div_div_eq_div_mul, Nat.mul_comm r.scale.denom.toNat 1000]
    ring
  rw [toNat_resolution, finestGap, max_le_iff, and_iff_left (le_max_right _ _), le_max_iff, or_comm,
    ceilDiv_le_iff_le_mul hdenom, ceilDiv_le_iff_le_mul hdenom, hgap, Nat.mul_comm _ 1000,
    ← Nat.dvd_iff_le_div_mul]

/-- A tick lasts a nanosecond at least, rounded up. -/
theorem resolution_pos (r : Ratio) : 0 < r.resolution.toNat := by
  rw [toNat_resolution]
  by_contra hzero
  have hnumer := (ceilDiv_le_iff_le_mul r.denom_pos).mp (Nat.le_of_not_lt hzero)
  have hpos := r.numer_pos
  omega

/-- The ratio of a counter whose ticks last two microseconds. -/
def twoMicros : Ratio := ⟨⟨2000, 1⟩, 18014398509481984000, 21, by decide +kernel⟩

end Ratio

/-! ## Clocks -/

namespace Clock

variable {σ : Type} {m : Machine σ} {c : Clock} {s : σ} {r : Ratio}

/-- With a scale `monotonic` shows the time of the continuous count. -/
theorem queryNanos_monotonic_shown (hconverter : (c.converter m s).1 = .calibrated r) :
    (c.queryNanos m .monotonic s).1 = .ok (r.shown (c.continuousTime m s).1) := by
  have hread : (c.readContinuous m.ticks m s).1 = .calibrated r := hconverter
  rw [queryNanos, monotonicNanos_eq, continuousTime_eq, hread]
  rfl

/-- With a scale the resolution of `monotonic` is that of the ratio, or a microsecond. -/
theorem resolution_monotonic (hconverter : (c.converter m s).1 = .calibrated r) :
    (c.resolution m .monotonic s).1 = .ok (.ofNanos (max r.resolution 1000)) := by
  have htick : ClockId.monotonic.isTickDerived = true := rfl
  have hpos : 0 < (Converter.calibrated r).resolution :=
    UInt64.lt_iff_toNat_lt.mpr r.resolution_pos
  rcases hread : c.converter m s with ⟨converter, c', t⟩
  rw [hread] at hconverter
  cases hconverter
  rw [resolution, if_pos htick, hread]
  dsimp only
  rw [if_pos ⟨rfl, hpos⟩]
  rfl

/-- With any usable scale `monotonic` shows the time of the continuous count, and the distance that
all different times shown keep is a microsecond, or the whole microseconds of a tick. The resolution
claims no more than that exactly if a tick is no longer than a microsecond or a whole number of
microseconds. -/
theorem monotonic_spacedByResolution_iff (scale : Scale) (hnumer : scale.numer ≠ 0)
    (hdenom : scale.denom ≠ 0) :
    ∃ r, Ratio.ofScale scale = .ok r ∧
      (∀ gap, r.SpacedBy gap ↔
        gap ≤ max (scale.numer.toNat / scale.denom.toNat / 1000 * 1000) 1000) ∧
      ∀ {σ : Type} (m : Machine σ) (c : Clock) (s : σ), (c.converter m s).1 = .calibrated r →
        (c.queryNanos m .monotonic s).1 = .ok (r.shown (c.continuousTime m s).1) ∧
        ∃ resolution, (c.resolution m .monotonic s).1 = .ok resolution ∧
          (r.SpacedBy resolution.nanos.toNat ↔
            scale.numer.toNat ≤ 1000 * scale.denom.toNat ∨
              1000 * scale.denom.toNat ∣ scale.numer.toNat) := by
  obtain ⟨r, hr⟩ := Ratio.exists_ofScale_iff.mpr ⟨hnumer, hdenom⟩
  have hscale := Ratio.scale_of_ofScale hr
  subst hscale
  refine ⟨r, hr, r.spacedBy_iff, fun m c s hconverter => ?_⟩
  refine ⟨queryNanos_monotonic_shown hconverter, _, resolution_monotonic hconverter, ?_⟩
  rw [Timespec.nanos_ofNanos, toNat_max, Ratio.spacedBy_iff]
  exact r.resolution_le_finestGap_iff

/-- A machine that tells a scale and counts two ticks, and then one more. -/
def twoCounts (scale : Scale) : Script := { scale := [.ok scale], ticks := [2, 3] }

/-- A new clock in fallback mode, whose continuous count is the counter alone. -/
def fallback : Clock := ⟨{}, none, .new { continuousMode := .rawFallback }⟩

/-- Ticks of two microseconds are a whole number of them, so the times shown for them are as far
apart as the resolution says. -/
theorem twoMicros_spacedByResolution :
    (fallback.converter (Script.machine false) (twoCounts ⟨2000, 1⟩)).1 = .calibrated .twoMicros ∧
      ∃ resolution,
        (fallback.resolution (Script.machine false) .monotonic (twoCounts ⟨2000, 1⟩)).1 =
          .ok resolution ∧
        resolution = ⟨0, 2000⟩ ∧ Ratio.twoMicros.SpacedBy resolution.nanos.toNat := by
  have hconverter : (fallback.converter (Script.machine false) (twoCounts ⟨2000, 1⟩)).1 =
      .calibrated .twoMicros := by decide +kernel
  obtain ⟨r, hr, -, hclocks⟩ :=
    monotonic_spacedByResolution_iff ⟨2000, 1⟩ (by decide) (by decide)
  obtain rfl : .twoMicros = r := Except.ok.inj (Ratio.twoMicros.ofScale_scale.symm.trans hr)
  obtain ⟨-, resolution, hresolution, hspaced⟩ := hclocks _ _ _ hconverter
  refine ⟨hconverter, resolution, hresolution, ?_, hspaced.mpr (.inr (by decide))⟩
  exact Except.ok.inj (hresolution.symm.trans (by decide +kernel))

/-- The first time that `monotonic` shows for ticks of a microsecond and a half. -/
def unevenTime : Except ClockError UInt64 × Clock × Script :=
  fallback.queryNanos (Script.machine false) .monotonic (twoCounts ⟨1500, 1⟩)

/-- Ticks of a microsecond and a half have a resolution of that length, but the times shown for the
second and the third of them are only a microsecond apart. -/
theorem unevenTime_finerThanResolution :
    (fallback.resolution (Script.machine false) .monotonic (twoCounts ⟨1500, 1⟩)).1 =
        .ok ⟨0, 1500⟩ ∧
      unevenTime.1 = .ok 3000 ∧
      (unevenTime.2.1.queryNanos (Script.machine false) .monotonic unevenTime.2.2).1 = .ok 4000 ∧
      ¬ SameOrApart 1500 3000 4000 := by
  decide +kernel

end Clock

end SoftClock
