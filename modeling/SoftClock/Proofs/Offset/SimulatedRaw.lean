import SoftClock.Proofs.Offset.Refresh
import SoftClock.Proofs.Offset.SimulatedSample
import SoftClock.Proofs.Timebase.Conversion
import Mathlib.Algebra.Order.Field.Rat
import Mathlib.Tactic.Linarith

/-!
# Raw Estimates on a Simulated Machine

How far a raw estimate is from the ticks of the time asleep. All bounds are stated without division:
with a scale of `n / d` nanoseconds a tick, `raw` ticks are `raw * n / d` nanoseconds, so that
`raw * n` is compared with nanoseconds times `d`.

* `elapsed_bounds`: of the wall time since boot less than a microsecond is lost, to the scale and to
  the wall clock together;
* `window_range` and `window_bounds`: what the division toward zero makes of that time;
* `raw_bounds`: a raw estimate is the time asleep less the skew of the boot time, by less than that
  microsecond and one tick;
* `Estimate.BaselineWithin.candidate_bounds`: a candidate, measured from a baseline that is such a
  raw estimate itself, exceeds its raw value by the skew and as much again at most.
-/

namespace SoftClock

/-! ## Rounding -/

/-- Rounding toward zero moves a quotient by less than one, toward zero. -/
theorem tdiv_bounds (x : ℤ) {n : ℤ} (hn : 0 < n) :
    x - n < x.tdiv n * n ∧ x.tdiv n * n < x + n ∧
      (0 ≤ x → 0 ≤ x.tdiv n * n ∧ x.tdiv n * n ≤ x) ∧ (x ≤ 0 → x ≤ x.tdiv n * n) := by
  have hmod := Int.tdiv_mul_add_tmod x n
  have hlt := Int.tmod_lt_of_pos x hn
  have hgt := Int.lt_tmod_of_pos x hn
  refine ⟨by omega, by omega, fun hx => ⟨?_, ?_⟩, fun hx => ?_⟩
  · exact Int.mul_nonneg (Int.tdiv_nonneg hx hn.le) hn.le
  · have := Int.tmod_nonneg n hx
    omega
  · have := Int.tmod_nonneg n (Int.neg_nonneg_of_nonpos hx)
    rw [Int.neg_tmod] at this
    omega

/-- Ticks that are made nanoseconds and added to a time asleep lose less than a microsecond to the
two floors. -/
theorem elapsed_bounds (ticks slept n : ℕ) {d : ℕ} (hd : 0 < d) :
    ticks * n + slept * d < ((ticks * n / d + slept) / 1000 * 1000 + 1000) * d ∧
      (ticks * n / d + slept) / 1000 * 1000 * d ≤ ticks * n + slept * d := by
  have hfloor := Nat.div_add_mod (ticks * n) d
  have hrest := Nat.mod_lt (ticks * n) hd
  generalize ticks * n / d = q at *
  constructor
  · -- rounding up a nanosecond does not reach past the next microsecond
    have hmicro : q + slept + 1 ≤ (q + slept) / 1000 * 1000 + 1000 := by omega
    calc ticks * n + slept * d < (q + slept + 1) * d := by
          rw [Nat.add_mul, Nat.add_mul, Nat.mul_comm q d]
          omega
      _ ≤ _ := Nat.mul_le_mul_right d hmicro
  · calc (q + slept) / 1000 * 1000 * d ≤ (q + slept) * d :=
          Nat.mul_le_mul_right d (Nat.div_mul_le_self _ _)
      _ ≤ ticks * n + slept * d := by
          rw [Nat.add_mul, Nat.mul_comm q d]
          omega

section Window

/-! A machine that was awake for `T` ticks and asleep for `S` nanoseconds shows `F` nanoseconds
since boot, which the skew shortens by `K`. -/

variable {T S F n d : ℕ} {K : ℤ}

/-- What is left of the time since boot stays within the words that it is converted in, and its
ticks less those awake within a signed word. -/
theorem window_range (hn : 0 < n) (hd : 0 < d) (hkept : F * d ≤ T * n + S * d) (hK : 0 ≤ K)
    (hKlt : K < 0x8000000000000000)
    (hnanos : T * n + S * d < 0x10000000000000000 * d)
    (hticks : T * n + S * d < 0x8000000000000000 * n)
    (hearly : K * d + T * n < 0x8000000000000000 * n) :
    (F - K : ℤ).natAbs < 0x10000000000000000 ∧
      (F - K : ℤ).natAbs * d < 0x8000000000000000 * n ∧
      -0x8000000000000000 ≤ ((F - K : ℤ) * d).tdiv n - T := by
  zify at hn hd hkept hnanos hticks ⊢
  obtain ⟨-, -, hpos, hneg⟩ := tdiv_bounds ((F - K : ℤ) * d) hn
  generalize ((F - K : ℤ) * d).tdiv n = q at *
  have hKd : 0 ≤ K * d := Int.mul_nonneg hK hd.le
  have hFd : 0 ≤ (F * d : ℤ) := Int.mul_nonneg (Int.natCast_nonneg F) hd.le
  have hTn : 0 ≤ (T * n : ℤ) := Int.mul_nonneg (Int.natCast_nonneg T) hn.le
  have hSd : 0 ≤ (S * d : ℤ) := Int.mul_nonneg (Int.natCast_nonneg S) hd.le
  rw [Int.sub_mul] at hpos hneg
  have hF : (F : ℤ) < 0x10000000000000000 := lt_of_mul_lt_mul_right (by omega) hd.le
  refine ⟨abs_lt.mpr ⟨by omega, by omega⟩, ?_, ?_⟩
  · -- either sign of the difference is bounded by what it was made from
    rcases abs_cases (F - K : ℤ) with ⟨habs, -⟩ | ⟨habs, -⟩
    · rw [habs, Int.sub_mul]
      omega
    · rw [habs, Int.neg_mul, Int.sub_mul]
      omega
  · -- the skew and the time awake are below `2 ^ 63` ticks together
    have hqn : -(K * d) ≤ q * n := by
      rcases le_total 0 (F * d - K * d : ℤ) with h | h
      · have := (hpos h).1
        omega
      · have := hneg h
        omega
    have hmul : (-0x8000000000000000 * n : ℤ) < (q - T) * n := by
      rw [Int.sub_mul]
      omega
    exact (lt_of_mul_lt_mul_right hmul hn.le).le

/-- The ticks that are left of the time since boot, less those awake, are those asleep less the
skew: up to a microsecond and a tick below, and up to a tick above. Without a skew nothing comes on
top. -/
theorem window_bounds (hn : 0 < n) (hlost : T * n + S * d < (F + 1000) * d)
    (hkept : F * d ≤ T * n + S * d) :
    ((S : ℤ) - 1000 - K) * d - n < (((F - K : ℤ) * d).tdiv n - T) * n ∧
      (((F - K : ℤ) * d).tdiv n - T) * n < (S - K) * d + n ∧
      (K = 0 → (((F - K : ℤ) * d).tdiv n - T) * n ≤ S * d) := by
  zify at hn hlost hkept
  obtain ⟨hlow, hhigh, hpos, -⟩ := tdiv_bounds ((F - K : ℤ) * d) hn
  generalize ((F - K : ℤ) * d).tdiv n = q at *
  rw [Int.sub_mul] at hlow hhigh hpos
  rw [Int.add_mul] at hlost
  rw [Int.sub_mul q]
  refine ⟨?_, ?_, fun h => ?_⟩
  · rw [Int.sub_mul, Int.sub_mul]
    omega
  · rw [Int.sub_mul]
    omega
  · -- rounding toward zero is a floor here
    have hFd : 0 ≤ (F * d : ℤ) := by positivity
    rw [h, Int.zero_mul, Int.sub_zero] at hpos
    have := (hpos hFd).2
    omega

end Window

/-! ## Samples -/

/-- The nanoseconds of wall time since boot that a sample shows. -/
def BootSample.elapsed (sample : BootSample) : ℤ :=
  sample.pair.wall.exactNanos - sample.boot.exactNanos

/-- In range the raw estimate is the exact number that its definition means. -/
theorem BootSample.toInt_raw (ratio : Ratio) (sample : BootSample)
    (helapsed : sample.elapsed.natAbs < 0x10000000000000000)
    (hticks : sample.elapsed.natAbs * ratio.scale.denom.toNat <
      0x8000000000000000 * ratio.scale.numer.toNat)
    (hmidpoint : sample.pair.midpoint.toNat < 0x8000000000000000)
    (hlow : -0x8000000000000000 ≤
      (sample.elapsed * ratio.scale.denom.toNat).tdiv ratio.scale.numer.toNat -
        sample.pair.midpoint.toNat) :
    (sample.raw ratio).toInt =
      (sample.elapsed * ratio.scale.denom.toNat).tdiv ratio.scale.numer.toNat -
        sample.pair.midpoint.toNat := by
  have hsigned := ratio.toInt_signedNanosToTicks_eq_tdiv helapsed hticks
  have hrange := toInt_mem_range (ratio.signedNanosToTicks sample.elapsed)
  rw [BootSample.raw, toInt_saturatingSub, toInt_ofIntClamp]
  rw [BootSample.elapsed] at *
  rw [hsigned] at hrange ⊢
  omega

namespace Simulated

/-- Ticks that come to less than `2 ^ 64` nanoseconds are converted by the plain floor. -/
theorem toNat_nanosOfTicks {scale : Scale} (hdenom : 0 < scale.denom.toNat) {ticks : UInt64}
    (h : ticks.toNat * scale.numer.toNat / scale.denom.toNat < 0x10000000000000000) :
    (nanosOfTicks scale ticks).toNat = ticks.toNat * scale.numer.toNat / scale.denom.toNat := by
  rw [nanosOfTicks, toNat_ofNatClamp, max_eq_left (Nat.succ_le_of_lt hdenom)]
  omega

end Simulated

/-- At a recorded call the times of a machine, in nanoseconds and in ticks, are within what the
conversions of a raw estimate can hold. -/
structure MachineRecord.Fits (scale : Scale) (skew : ℤ) (record : MachineRecord Simulated) :
    Prop where
  nanos : record.ticksCounted * scale.numer.toNat + record.before.slept.toNat * scale.denom.toNat <
    0x10000000000000000 * scale.denom.toNat
  ticks : record.ticksCounted * scale.numer.toNat + record.before.slept.toNat * scale.denom.toNat <
    0x8000000000000000 * scale.numer.toNat
  early : skew * scale.denom.toNat + record.ticksCounted * scale.numer.toNat <
    0x8000000000000000 * scale.numer.toNat

/-- The counter of a call that fits is below `2 ^ 63`. -/
theorem MachineRecord.Fits.ticksCounted_lt {scale : Scale} {skew : ℤ}
    {record : MachineRecord Simulated} (h : record.Fits scale skew) :
    record.ticksCounted < 0x8000000000000000 := by
  have := Nat.lt_of_le_of_lt (Nat.le_add_right _ _) h.ticks
  exact Nat.lt_of_mul_lt_mul_right this

/-- At a recorded call the wall time since boot is below a bound in nanoseconds and a bound in
ticks. -/
def MachineRecord.InRange (scale : Scale) (nanos ticks : ℚ) (record : MachineRecord Simulated) :
    Prop :=
  (record.ticksCounted : ℚ) * scale.numer.toNat / scale.denom.toNat + record.before.slept.toNat <
      nanos ∧
    (record.ticksCounted : ℚ) +
      record.before.slept.toNat * scale.denom.toNat / scale.numer.toNat < ticks

instance (scale : Scale) (nanos ticks : ℚ) (record : MachineRecord Simulated) :
    Decidable (record.InRange scale nanos ticks) :=
  inferInstanceAs (Decidable (_ ∧ _))

/-- The range without division. -/
theorem MachineRecord.InRange.mul_lt {scale : Scale} {nanos ticks : ℕ}
    {record : MachineRecord Simulated} (hnumer : 0 < scale.numer.toNat)
    (hdenom : 0 < scale.denom.toNat) (h : record.InRange scale nanos ticks) :
    record.ticksCounted * scale.numer.toNat + record.before.slept.toNat * scale.denom.toNat <
        nanos * scale.denom.toNat ∧
      record.ticksCounted * scale.numer.toNat + record.before.slept.toNat * scale.denom.toNat <
        ticks * scale.numer.toNat := by
  obtain ⟨hnanos, hticks⟩ := h
  have hn : (0 : ℚ) < scale.numer.toNat := Nat.cast_pos.mpr hnumer
  have hd : (0 : ℚ) < scale.denom.toNat := Nat.cast_pos.mpr hdenom
  rw [div_add' _ _ _ hd.ne', div_lt_iff₀ hd] at hnanos
  rw [add_div' _ _ _ hn.ne', div_lt_iff₀ hn] at hticks
  exact ⟨by exact_mod_cast hnanos, by exact_mod_cast hticks⟩

/-- Times below `2 ^ 64` nanoseconds and `2 ^ 63` ticks fit, if the boot time is reported as it is.
-/
theorem MachineRecord.InRange.fits {ratio : Ratio} {record : MachineRecord Simulated}
    (h : record.InRange ratio.scale (2 ^ 64) (2 ^ 63)) : record.Fits ratio.scale 0 := by
  have h' : record.InRange ratio.scale (0x10000000000000000 : ℕ) (0x8000000000000000 : ℕ) := by
    norm_num at h ⊢
    exact h
  obtain ⟨hnanos, hticks⟩ := h'.mul_lt ratio.numer_pos ratio.denom_pos
  refine ⟨hnanos, hticks, ?_⟩
  rw [Int.zero_mul, Int.zero_add]
  exact_mod_cast Nat.lt_of_le_of_lt (Nat.le_add_right _ _) hticks

/-- Times below `2 ^ 62` in nanoseconds and in ticks fit beside a skew that is below `2 ^ 62` ticks.
-/
theorem MachineRecord.InRange.fits_skewed {scale : Scale} {skew : ℤ}
    {record : MachineRecord Simulated} (hnumer : 0 < scale.numer.toNat)
    (hdenom : 0 < scale.denom.toNat) (h : record.InRange scale (2 ^ 62) (2 ^ 62))
    (hskew : (skew : ℚ) * scale.denom.toNat / scale.numer.toNat < 2 ^ 62) :
    record.Fits scale skew := by
  have h' : record.InRange scale (0x4000000000000000 : ℕ) (0x4000000000000000 : ℕ) := by
    norm_num at h ⊢
    exact h
  obtain ⟨hnanos, hticks⟩ := h'.mul_lt hnumer hdenom
  have hearly : skew * scale.denom.toNat < 0x4000000000000000 * scale.numer.toNat := by
    rw [div_lt_iff₀ (Nat.cast_pos.mpr hnumer)] at hskew
    norm_num at hskew
    exact_mod_cast hskew
  refine ⟨by omega, by omega, ?_⟩
  -- half of the range is left for the counter
  zify at hticks
  have hslept : 0 ≤ (record.before.slept.toNat : ℤ) * scale.denom.toNat := by positivity
  omega

section Bounds

variable {s t : Simulated × List (MachineRecord Simulated)} {sample : BootSample} {ratio : Ratio}
  {skew : ℤ} (hobserves : Simulated.machine.recorded.ObservesSample s t sample)
  (hundisturbed : s.1.Undisturbed ratio.scale skew) (hnonneg : 0 ≤ skew)
  (hlt : skew < 0x8000000000000000) (hfits : ∀ r ∈ t.2, r.Fits ratio.scale skew)

include hobserves hundisturbed hnonneg hlt hfits

/-- The wall time since boot of a sample: that of its midpoint and the time asleep to the
microsecond, less the skew to the microsecond. -/
theorem elapsed_simulated :
    sample.elapsed =
      ((sample.pair.midpoint.toNat * ratio.scale.numer.toNat / ratio.scale.denom.toNat +
        s.1.slept.toNat) / 1000 * 1000 : ℕ) - skew / 1000 * 1000 := by
  obtain ⟨hboot, hwall, r, hr, hslept, hticks⟩ := hobserves.simulated hundisturbed.bootBumps_eq
    fun r hr => (hfits r hr).ticksCounted_lt
  have hnanos := (hfits r hr).nanos
  rw [hslept, hticks] at hnanos
  have hquotient : sample.pair.midpoint.toNat * ratio.scale.numer.toNat /
      ratio.scale.denom.toNat < 0x10000000000000000 := by
    refine (Nat.div_lt_iff_lt_mul ratio.denom_pos).mpr ?_
    exact Nat.lt_of_le_of_lt (Nat.le_add_right _ _) hnanos
  have hslept_lt := s.1.slept.toNat_lt
  rw [BootSample.elapsed, hwall, hboot, hundisturbed.bootReport_eq, Simulated.wallNanosAt,
    hundisturbed.scale_eq, hundisturbed.wallShift_eq,
    Simulated.toNat_nanosOfTicks ratio.denom_pos hquotient]
  have hbootWall : Simulated.bootWall = 1700000000000000000 := rfl
  generalize sample.pair.midpoint.toNat * ratio.scale.numer.toNat / ratio.scale.denom.toNat = awake
    at hquotient ⊢
  -- the wall time at boot is a whole number of microseconds, so both floors pass it on
  rw [Timeval.exactNanos_ofExactNanos, Timeval.exactNanos_ofExactNanos, hbootWall] <;> omega

/-- A raw estimate is the time asleep less the skew, both in ticks, up to a microsecond and a tick
below, and up to a tick above. Without a skew nothing comes on top. -/
theorem raw_bounds :
    ((s.1.slept.toNat : ℤ) - 1000 - skew / 1000 * 1000) * ratio.scale.denom.toNat -
        ratio.scale.numer.toNat <
      (sample.raw ratio).toInt * ratio.scale.numer.toNat ∧
    (sample.raw ratio).toInt * ratio.scale.numer.toNat <
      ((s.1.slept.toNat : ℤ) - skew / 1000 * 1000) * ratio.scale.denom.toNat +
        ratio.scale.numer.toNat ∧
    (skew = 0 → (sample.raw ratio).toInt * ratio.scale.numer.toNat ≤
      s.1.slept.toNat * ratio.scale.denom.toNat) := by
  have helapsed := elapsed_simulated hobserves hundisturbed hnonneg hlt hfits
  obtain ⟨-, -, r, hr, hslept, hticks⟩ := hobserves.simulated hundisturbed.bootBumps_eq
    fun r hr => (hfits r hr).ticksCounted_lt
  have hmidpoint := (hfits r hr).ticksCounted_lt
  obtain ⟨hnanosFit, hticksFit, hearly⟩ := hfits r hr
  rw [hslept, hticks] at hnanosFit hticksFit
  rw [hticks] at hearly hmidpoint
  obtain ⟨hlost, hkept⟩ := elapsed_bounds sample.pair.midpoint.toNat s.1.slept.toNat
    ratio.scale.numer.toNat ratio.denom_pos
  have hskew : 0 ≤ skew / 1000 * 1000 ∧ skew / 1000 * 1000 ≤ skew := by omega
  have hearly' : skew / 1000 * 1000 * ratio.scale.denom.toNat +
      sample.pair.midpoint.toNat * ratio.scale.numer.toNat <
        0x8000000000000000 * ratio.scale.numer.toNat := by
    have := Int.mul_le_mul_of_nonneg_right hskew.2 (Int.natCast_nonneg ratio.scale.denom.toNat)
    omega
  -- in range nothing saturates, so the raw estimate is the number that the window is about
  obtain ⟨hrange, hticksRange, hlow⟩ := window_range ratio.numer_pos ratio.denom_pos hkept
    hskew.1 (by omega) hnanosFit hticksFit hearly'
  have hraw := sample.toInt_raw ratio
  rw [helapsed] at hraw
  rw [hraw hrange hticksRange hmidpoint hlow]
  obtain ⟨hbelow, habove, hnone⟩ :=
    window_bounds (K := skew / 1000 * 1000) ratio.numer_pos hlost hkept
  refine ⟨hbelow, habove, fun h => hnone ?_⟩
  rw [h]
  rfl

end Bounds

/-! ## Candidates -/

namespace Estimate

/-- The baseline is no deeper than the skew, a microsecond and a tick. -/
def BaselineWithin (scale : Scale) (skew : ℤ) (e : Estimate) : Prop :=
  ∀ b, e.baseline = some b → b.toInt ≤ 0 ∧
    (-(skew / 1000 * 1000) - 1000) * scale.denom.toNat - scale.numer.toNat <
      b.toInt * scale.numer.toNat

variable {ratio : Ratio} {skew : ℤ} {e : Estimate} {sample : BootSample}
  (h : e.BaselineWithin ratio.scale skew)
  (hraw : (-(skew / 1000 * 1000) - 1000) * ratio.scale.denom.toNat - ratio.scale.numer.toNat <
    (sample.raw ratio).toInt * ratio.scale.numer.toNat)

include h hraw

/-- A raw value that is no deeper leaves the baseline so, even if it becomes the baseline. -/
theorem BaselineWithin.observe :
    (e.observe (sample.raw ratio)).BaselineWithin ratio.scale skew :=
  baseline_observe_of h fun hneg => ⟨hneg.le, hraw⟩

/-- A candidate is at least its raw value, and exceeds it by less than the skew, a microsecond and a
tick. -/
theorem BaselineWithin.candidate_bounds (hnonneg : 0 ≤ skew) :
    (sample.raw ratio).toInt ≤ (e.candidateOf ratio sample).toInt ∧
      (e.candidateOf ratio sample).toInt * ratio.scale.numer.toNat <
        (sample.raw ratio).toInt * ratio.scale.numer.toNat +
          (skew / 1000 * 1000 + 1000) * ratio.scale.denom.toNat + ratio.scale.numer.toNat := by
  have hrange := toInt_mem_range (sample.raw ratio)
  have hcandidate := e.toInt_candidateOf ratio sample
  have hK : 0 ≤ skew / 1000 * 1000 * ratio.scale.denom.toNat :=
    Int.mul_nonneg (by omega) (Int.natCast_nonneg _)
  -- a baseline that was set just now is such a raw value itself
  have hbase : ((e.observe (sample.raw ratio)).baseline.getD 0).toInt ≤ 0 ∧
      (-(skew / 1000 * 1000) - 1000) * ratio.scale.denom.toNat - ratio.scale.numer.toNat <
        ((e.observe (sample.raw ratio)).baseline.getD 0).toInt * ratio.scale.numer.toNat := by
    cases hb : (e.observe (sample.raw ratio)).baseline with
    | some b => exact h.observe hraw b hb
    | none =>
      have hdenom := ratio.denom_pos
      show (0 : Int64).toInt ≤ 0 ∧ _ < (0 : Int64).toInt * _
      rw [Int64.toInt_zero, Int.zero_mul, Int.sub_mul, Int.neg_mul]
      omega
  generalize ((e.observe (sample.raw ratio)).baseline.getD 0).toInt = base at hcandidate hbase
  refine ⟨by omega, ?_⟩
  -- saturation only lowers a difference that is too large
  calc (e.candidateOf ratio sample).toInt * ratio.scale.numer.toNat
      ≤ ((sample.raw ratio).toInt - base) * ratio.scale.numer.toNat :=
        Int.mul_le_mul_of_nonneg_right (by omega) (Int.natCast_nonneg _)
    _ < _ := by
        rw [Int.sub_mul, Int.neg_mul] at hbase
        rw [Int.sub_mul, Int.add_mul]
        omega

end Estimate

end SoftClock
