import SoftClock.Proofs.Timebase.Resolution

/-!
# There and Back between Ticks and Nanoseconds

The two conversions of a converter are not inverse to each other: the one from ticks goes through a
multiplier that is rounded up, the one from nanoseconds divides exactly and rounds down. There and
back again they stay together all the same, as long as the way out does not saturate.

* `le_mul_div_mul_div` and `add_mul_div_le` are the two sides of the argument, for rounded quotients
  in either direction;
* `Ratio.nanos_roundTrip`: nanoseconds come back less the length of a tick at most, and at most two
  nanoseconds more;
* `Ratio.ticks_roundTrip`: ticks come back less the ticks of a nanosecond at most, and at most those
  of two nanoseconds more;
* `Converter.roundTrips_stayTogether` states both for the converter of every usable scale.
-/

namespace SoftClock

/-! ## Quotients there and back -/

/-- Rounding down there and back loses less than one unit of the quotient and one of the result. -/
theorem le_mul_div_mul_div (x : ℕ) {a b : ℕ} (ha : 0 < a) (hb : 0 < b) :
    x ≤ x * a / b * b / a + b ⌈/⌉ a := by
  have hunit : b ≤ a * (b ⌈/⌉ a) := (ceilDiv_le_iff_le_mul ha).mp le_rfl
  have hthere : x * a < (x * a / b + 1) * b := Nat.lt_mul_of_div_lt (Nat.lt_succ_self _) hb
  have hback : x * a / b * b < (x * a / b * b / a + 1) * a :=
    Nat.lt_mul_of_div_lt (Nat.lt_succ_self _) ha
  apply Nat.le_of_lt_succ
  apply Nat.lt_of_mul_lt_mul_left (a := a)
  calc a * x = x * a := Nat.mul_comm a x
    _ < (x * a / b + 1) * b := hthere
    _ = x * a / b * b + b := by ring
    _ ≤ (x * a / b * b / a + 1) * a + a * (b ⌈/⌉ a) := Nat.add_le_add hback.le hunit
    _ = a * (x * a / b * b / a + b ⌈/⌉ a).succ := by rw [Nat.succ_eq_add_one]; ring

/-- What is added to a quotient that was rounded down comes back multiplied by the ratio and rounded
up. -/
theorem add_mul_div_le (x k : ℕ) {a b : ℕ} (ha : 0 < a) :
    (x * a / b + k) * b / a ≤ x + k * b ⌈/⌉ a := by
  have hadded : k * b ≤ a * (k * b ⌈/⌉ a) := (ceilDiv_le_iff_le_mul ha).mp le_rfl
  apply Nat.div_le_of_le_mul
  calc (x * a / b + k) * b = x * a / b * b + k * b := Nat.add_mul _ _ _
    _ ≤ x * a + a * (k * b ⌈/⌉ a) := Nat.add_le_add (Nat.div_mul_le_self _ b) hadded
    _ = a * (x + k * b ⌈/⌉ a) := by ring

/-! ## Conversions there and back -/

namespace Ratio

variable (r : Ratio)

/-- Nanoseconds come back from whole ticks within the length of a tick below and two nanoseconds
above. -/
theorem nanos_roundTrip {nanos : UInt64}
    (hfits : nanos.toNat * r.scale.denom.toNat / r.scale.numer.toNat < 0x10000000000000000) :
    nanos.toNat ≤ (r.ticksToNanos (r.nanosToTicks nanos)).toNat + r.resolution.toNat ∧
      (r.ticksToNanos (r.nanosToTicks nanos)).toNat ≤ nanos.toNat + 2 := by
  have hnanos := nanos.toNat_lt
  have hticks : (r.nanosToTicks nanos).toNat =
      nanos.toNat * r.scale.denom.toNat / r.scale.numer.toNat := by
    rw [toNat_nanosToTicks]
    exact min_eq_left (Nat.le_of_lt_succ hfits)
  obtain ⟨hlow, hhigh⟩ := r.ticksToNanos_bounds (r.nanosToTicks nanos)
  rw [hticks] at hlow hhigh
  have hlost := le_mul_div_mul_div nanos.toNat r.denom_pos r.numer_pos
  have hnone := add_mul_div_le nanos.toNat 0 (b := r.scale.numer.toNat) r.denom_pos
  rw [Nat.add_zero, Nat.zero_mul, zero_ceilDiv, Nat.add_zero] at hnone
  rw [toNat_resolution]
  omega

/-- Ticks come back from nanoseconds within the ticks of a nanosecond below, rounded up, and those
of two nanoseconds above. -/
theorem ticks_roundTrip {ticks : UInt64}
    (hfits : ticks.toNat * r.scale.numer.toNat / r.scale.denom.toNat < 0x10000000000000000) :
    ticks.toNat ≤ (r.nanosToTicks (r.ticksToNanos ticks)).toNat +
        (r.scale.denom.toNat ⌈/⌉ r.scale.numer.toNat) ∧
      (r.nanosToTicks (r.ticksToNanos ticks)).toNat ≤
        ticks.toNat + (2 * r.scale.denom.toNat ⌈/⌉ r.scale.numer.toNat) := by
  have hticks := ticks.toNat_lt
  obtain ⟨hlow, hhigh⟩ := r.ticksToNanos_bounds ticks
  -- more nanoseconds are no fewer ticks, so the bounds of the way out carry over to the way back
  have hback {k l : ℕ} (h : k ≤ l) : k * r.scale.denom.toNat / r.scale.numer.toNat ≤
      l * r.scale.denom.toNat / r.scale.numer.toNat :=
    Nat.div_le_div_right (Nat.mul_le_mul_right _ h)
  have hbelow := hback (le_trans (le_min le_rfl (Nat.le_of_lt_succ hfits)) hlow)
  have habove := hback (le_trans hhigh (min_le_left _ _))
  have hlost := le_mul_div_mul_div ticks.toNat r.numer_pos r.denom_pos
  have hgained := add_mul_div_le ticks.toNat 2 (b := r.scale.denom.toNat) r.numer_pos
  rw [toNat_nanosToTicks]
  omega

end Ratio

namespace Converter

/-- For every usable scale the two conversions stay together. Nanoseconds whose ticks fit a word
come back within the resolution below and two nanoseconds above; ticks whose nanoseconds fit come
back within the ticks of one nanosecond below and of two nanoseconds above, both rounded up. -/
theorem roundTrips_stayTogether (scale : Scale) (hnumer : scale.numer ≠ 0)
    (hdenom : scale.denom ≠ 0) :
    ∃ converter, ofScale scale = .ok converter ∧
      (∀ nanos : UInt64,
        nanos.toNat * scale.denom.toNat / scale.numer.toNat < 0x10000000000000000 →
        nanos.toNat ≤ (converter.ticksToNanos (converter.nanosToTicks nanos)).toNat +
            converter.resolution.toNat ∧
          (converter.ticksToNanos (converter.nanosToTicks nanos)).toNat ≤ nanos.toNat + 2) ∧
      ∀ ticks : UInt64,
        ticks.toNat * scale.numer.toNat / scale.denom.toNat < 0x10000000000000000 →
        ticks.toNat ≤ (converter.nanosToTicks (converter.ticksToNanos ticks)).toNat +
            (scale.denom.toNat ⌈/⌉ scale.numer.toNat) ∧
          (converter.nanosToTicks (converter.ticksToNanos ticks)).toNat ≤
            ticks.toNat + (2 * scale.denom.toNat ⌈/⌉ scale.numer.toNat) := by
  obtain ⟨r, rfl, hconverter⟩ := Ratio.exists_converter hnumer hdenom
  refine ⟨.calibrated r, hconverter, ?_, ?_⟩
  · intro nanos hfits
    exact r.nanos_roundTrip hfits
  · intro ticks hfits
    exact r.ticks_roundTrip hfits

/-- With a 24 MHz counter the largest count of nanoseconds comes back up to 42 of them short, and
the last count of ticks before saturation within a tick on either side. -/
theorem megahertz24_stayTogether :
    Scale.megahertz24.numer ≠ 0 ∧ Scale.megahertz24.denom ≠ 0 ∧
      ∃ converter, ofScale .megahertz24 = .ok converter ∧ converter.resolution = 42 ∧
        18446744073709551615 * 24000000 / 1000000000 < 0x10000000000000000 ∧
        18446744073709551615 ≤
          (converter.ticksToNanos (converter.nanosToTicks 18446744073709551615)).toNat + 42 ∧
        442721857769029238 * 1000000000 / 24000000 < 0x10000000000000000 ∧
        442721857769029238 ≤
          (converter.nanosToTicks (converter.ticksToNanos 442721857769029238)).toNat + 1 ∧
        (converter.nanosToTicks (converter.ticksToNanos 442721857769029238)).toNat ≤
          442721857769029238 + 1 := by
  have hnumer : Scale.megahertz24.numer ≠ 0 := by decide
  have hdenom : Scale.megahertz24.denom ≠ 0 := by decide
  obtain ⟨converter, hconverter, hnanos, hticks⟩ :=
    roundTrips_stayTogether .megahertz24 hnumer hdenom
  obtain rfl : .calibrated .megahertz24 = converter := Ratio.calibrated_eq hconverter
  have hresolution : (calibrated .megahertz24).resolution = 42 := by decide +kernel
  have hnanosFit : 18446744073709551615 * 24000000 / 1000000000 < 0x10000000000000000 := by decide
  have hticksFit : 442721857769029238 * 1000000000 / 24000000 < 0x10000000000000000 := by decide
  obtain ⟨hback, -⟩ := hnanos 18446744073709551615 hnanosFit
  obtain ⟨hbelow, habove⟩ := hticks 442721857769029238 hticksFit
  rw [hresolution] at hback
  exact ⟨hnumer, hdenom, _, hconverter, hresolution, hnanosFit, hback, hticksFit, hbelow, habove⟩

end Converter

end SoftClock
