import SoftClock.Proofs.Timebase.Accuracy
import Mathlib.Algebra.Order.Floor.Div

/-!
# The Resolution of a Converter

The length of a tick is reported in whole nanoseconds, rounded up. It is computed from the
multiplier, which is rounded up itself, and rounding twice could report a nanosecond too much. It
does not, whatever the shift: the ceiling of a scaled ceiling is the ceiling of the exact quotient.

* `Ratio.toNat_resolution`: the resolution is the exact length of a tick, rounded up;
* `Ratio.multiplier_div`: rounding up leaves the multiplier the whole nanoseconds of a tick;
* `Ratio.toNat_ticksToNanos_succ_le`: one more tick adds at most the resolution, also where the
  conversion saturates;
* `Ratio.le_toNat_ticksToNanos_succ`: it adds at least the whole nanoseconds of a tick, as long as
  the conversion does not saturate;
* `Converter.resolution_boundsSteps` states this for the converter of every usable scale.
-/

namespace SoftClock

/-! ## Ceilings -/

/-- A quotient is rounded up by adding one for a remainder. -/
theorem ceilDiv_eq_div_add (n : ℕ) {p : ℕ} (hp : 0 < p) :
    n ⌈/⌉ p = n / p + if n % p ≠ 0 then 1 else 0 := by
  have hsplit := Nat.div_add_mod' n p
  have hmod := Nat.mod_lt n hp
  rw [Nat.ceilDiv_eq_add_pred_div]
  by_cases hrest : n % p = 0
  · -- nothing is left to round
    rw [if_neg (not_not.mpr hrest), Nat.add_zero]
    apply Nat.div_eq_of_lt_le
    · omega
    · rw [Nat.add_mul, Nat.one_mul]
      omega
  · -- a remainder and one less than the divisor reach the next multiple, but not the one after it
    rw [if_pos hrest]
    apply Nat.div_eq_of_lt_le
    · rw [Nat.add_mul, Nat.one_mul]
      omega
    · rw [Nat.add_mul, Nat.add_mul, Nat.one_mul]
      omega

/-- Scaling before one division and dividing the scale out again rounds up only once. -/
theorem ceilDiv_mul_ceilDiv (n : ℕ) {d p : ℕ} (hd : 0 < d) (hp : 0 < p) :
    (n * p ⌈/⌉ d) ⌈/⌉ p = n ⌈/⌉ d := by
  -- both ceilings have the same upper bounds
  apply eq_of_forall_ge_iff
  intro c
  rw [ceilDiv_le_iff_le_mul hp, ceilDiv_le_iff_le_mul hd, ceilDiv_le_iff_le_mul hd]
  rw [show d * (p * c) = d * c * p by ring]
  exact Nat.mul_le_mul_right_iff hp

/-! ## Words -/

/-- One more than a word is one more as a number, unless it wraps around. -/
theorem toNat_add_one {w : UInt64} (h : w < 0xffffffffffffffff) : (w + 1).toNat = w.toNat + 1 := by
  have hlt : w.toNat < 0xffffffffffffffff := UInt64.lt_iff_toNat_lt.mp h
  rw [UInt64.toNat_add]
  exact Nat.mod_eq_of_lt (Nat.succ_lt_succ hlt)

/-- The bits below bit `k` are the remainder of a division by a power of two. -/
theorem toNat_and_lowMask (m : UInt64) {k : UInt64} (hlt : k.toNat < 64) :
    (m &&& ((1 <<< k) - 1)).toNat = m.toNat % 2 ^ k.toNat := by
  have hone : ((1 : UInt64) <<< k).toNat = 2 ^ k.toNat := by
    rw [UInt64.toNat_shiftLeft, Nat.mod_eq_of_lt hlt, Nat.shiftLeft_eq]
    simp only [UInt64.reduceToNat, Nat.one_mul]
    exact Nat.mod_eq_of_lt (Nat.pow_lt_pow_right (by decide) hlt)
  have hmask : ((1 <<< k) - 1 : UInt64).toNat = 2 ^ k.toNat - 1 := by
    rw [UInt64.toNat_sub_of_le, hone]
    · rfl
    · rw [UInt64.le_iff_toNat_le, hone]
      exact Nat.one_le_two_pow
  rw [UInt64.toNat_and, hmask, Nat.and_two_pow_sub_one_eq_mod]

/-- A shift with a test of the bits that it drops divides by a power of two and rounds up. -/
theorem toNat_shiftRight_roundUp (m : UInt64) {k : UInt64} (hpos : 0 < k.toNat)
    (hlt : k.toNat < 64) :
    ((m >>> k) + (if m &&& ((1 <<< k) - 1) ≠ 0 then 1 else 0)).toNat =
      m.toNat ⌈/⌉ 2 ^ k.toNat := by
  have hm := m.toNat_lt
  -- the quotient leaves room for one more
  have hhalf : m.toNat / 2 ^ k.toNat ≤ m.toNat / 2 :=
    Nat.div_le_div_left (Nat.pow_le_pow_right Nat.two_pos hpos) Nat.two_pos
  have hquotient : (m >>> k).toNat = m.toNat / 2 ^ k.toNat := by
    rw [UInt64.toNat_shiftRight, Nat.mod_eq_of_lt hlt, Nat.shiftRight_eq_div_pow]
  have hrest : m &&& ((1 <<< k) - 1) ≠ 0 ↔ m.toNat % 2 ^ k.toNat ≠ 0 := by
    rw [ne_eq, ← UInt64.toNat_inj, toNat_and_lowMask m hlt]
    rfl
  rw [ceilDiv_eq_div_add _ (Nat.two_pow_pos _), UInt64.toNat_add, hquotient]
  by_cases h : m.toNat % 2 ^ k.toNat ≠ 0
  · rw [if_pos (hrest.mpr h), if_pos h]
    change (_ + 1) % 2 ^ 64 = _
    omega
  · rw [if_neg (mt hrest.mp h), if_neg h]
    change (_ + 0) % 2 ^ 64 = _
    omega

/-! ## The resolution -/

/-- The multiplier is the scaled ratio, rounded up. -/
theorem Scale.scaledMultiplier_eq_ceilDiv {s : Scale} (hdenom : 0 < s.denom.toNat) (extra : ℕ) :
    s.scaledMultiplier extra = s.numer.toNat * 2 ^ (32 + extra) ⌈/⌉ s.denom.toNat := by
  rw [scaledMultiplier, Nat.shiftLeft_eq, Nat.ceilDiv_eq_add_pred_div, Nat.add_sub_assoc hdenom]

namespace Ratio

variable (r : Ratio)

/-- The resolution is the multiplier less its fractional bits, rounded up. -/
theorem toNat_resolution_eq_ceilDiv :
    r.resolution.toNat = r.multiplier.toNat ⌈/⌉ 2 ^ (32 + r.extraBits) := by
  have hextra := r.extraBits_le
  have hshift := r.toNat_shift
  by_cases hidentity : r.scale.isIdentity = true
  · -- the identity is told apart, and has the multiplier of one nanosecond
    obtain ⟨hmultiplier, hbits⟩ := r.fixedPoint_of_isIdentity hidentity
    rw [resolution, if_pos hidentity, hmultiplier, hbits]
    rfl
  · rw [resolution, if_neg hidentity, ← hshift]
    exact toNat_shiftRight_roundUp r.multiplier (by omega) (by omega)

/-- The resolution is the exact length of a tick, rounded up. -/
theorem toNat_resolution :
    r.resolution.toNat = r.scale.numer.toNat ⌈/⌉ r.scale.denom.toNat := by
  rw [toNat_resolution_eq_ceilDiv, toNat_multiplier,
    Scale.scaledMultiplier_eq_ceilDiv r.denom_pos,
    ceilDiv_mul_ceilDiv _ r.denom_pos (Nat.two_pow_pos _)]

/-- The whole nanoseconds of a tick are those of the multiplier, which is rounded up too little to
make them more. -/
theorem multiplier_div :
    r.multiplier.toNat / 2 ^ (32 + r.extraBits) = r.scale.numer.toNat / r.scale.denom.toNat := by
  have hdenom := r.denom_pos
  have hlow := r.le_multiplier_mul
  have hhigh := r.multiplier_mul_lt
  have hscaling : r.scale.denom.toNat ≤ 2 ^ (32 + r.extraBits) := by
    calc r.scale.denom.toNat ≤ 2 ^ 32 := r.scale.denom.toNat_lt.le
      _ ≤ 2 ^ (32 + r.extraBits) := Nat.pow_le_pow_right (by decide) (Nat.le_add_right _ _)
  apply le_antisymm
  · rw [← Nat.lt_succ_iff, Nat.div_lt_iff_lt_mul (Nat.two_pow_pos _)]
    refine Nat.lt_of_mul_lt_mul_right (a := r.scale.denom.toNat) ?_
    -- the numerator is at least one short of the next multiple, and the scaling makes up for the
    -- rounding with that one
    have hquotient : r.scale.numer.toNat + 1 ≤
        (r.scale.numer.toNat / r.scale.denom.toNat).succ * r.scale.denom.toNat :=
      Nat.lt_mul_of_div_lt (Nat.lt_succ_self _) hdenom
    calc r.multiplier.toNat * r.scale.denom.toNat
        < r.scale.numer.toNat * 2 ^ (32 + r.extraBits) + r.scale.denom.toNat := hhigh
      _ ≤ (r.scale.numer.toNat + 1) * 2 ^ (32 + r.extraBits) := by
        rw [Nat.succ_mul]
        exact Nat.add_le_add_left hscaling _
      _ ≤ (r.scale.numer.toNat / r.scale.denom.toNat).succ * r.scale.denom.toNat *
          2 ^ (32 + r.extraBits) := Nat.mul_le_mul_right _ hquotient
      _ = (r.scale.numer.toNat / r.scale.denom.toNat).succ * 2 ^ (32 + r.extraBits) *
          r.scale.denom.toNat := by ring
  · simpa using quotient_le_scaled (t := 1) hdenom (Nat.two_pow_pos _) hlow

/-! ## Steps -/

/-- One more tick scales to at most the rounded-up multiplier more. -/
theorem scaled_succ_le (t m : ℕ) {p : ℕ} (hp : 0 < p) :
    (t + 1) * m / p ≤ t * m / p + m ⌈/⌉ p := by
  have hm : m ≤ p * (m ⌈/⌉ p) := (ceilDiv_le_iff_le_mul hp).mp le_rfl
  calc (t + 1) * m / p = (t * m + m) / p := by rw [Nat.succ_mul]
    _ ≤ (t * m + p * (m ⌈/⌉ p)) / p := Nat.div_le_div_right (Nat.add_le_add_left hm _)
    _ = t * m / p + m ⌈/⌉ p := Nat.add_mul_div_left _ _ hp

/-- One more tick scales to at least the whole part of the multiplier more. -/
theorem le_scaled_succ (t m p : ℕ) : t * m / p + m / p ≤ (t + 1) * m / p := by
  rw [Nat.succ_mul]
  exact Nat.div_add_div_le_add_div

variable {r} {ticks : UInt64}

/-- One more tick adds at most the resolution. Saturation only makes the step smaller. -/
theorem toNat_ticksToNanos_succ_le (hticks : ticks < 0xffffffffffffffff) :
    (r.ticksToNanos (ticks + 1)).toNat ≤ (r.ticksToNanos ticks).toNat + r.resolution.toNat := by
  have hstep := scaled_succ_le ticks.toNat r.multiplier.toNat (Nat.two_pow_pos (32 + r.extraBits))
  rw [toNat_ticksToNanos, toNat_ticksToNanos, toNat_add_one hticks, toNat_resolution_eq_ceilDiv]
  omega

/-- One more tick adds at least its whole nanoseconds, as long as the result does not saturate. -/
theorem le_toNat_ticksToNanos_succ (hticks : ticks < 0xffffffffffffffff)
    (hfits : r.ticksToNanos (ticks + 1) < 0xffffffffffffffff) :
    (r.ticksToNanos ticks).toNat + r.scale.numer.toNat / r.scale.denom.toNat ≤
      (r.ticksToNanos (ticks + 1)).toNat := by
  have hlt : (r.ticksToNanos (ticks + 1)).toNat < 0xffffffffffffffff :=
    UInt64.lt_iff_toNat_lt.mp hfits
  have hstep := le_scaled_succ ticks.toNat r.multiplier.toNat (2 ^ (32 + r.extraBits))
  rw [multiplier_div] at hstep
  rw [toNat_ticksToNanos, toNat_add_one hticks] at hlt
  rw [toNat_ticksToNanos, toNat_ticksToNanos, toNat_add_one hticks]
  omega

end Ratio

namespace Converter

/-- The resolution of every usable scale is the exact length of a tick, rounded up. It bounds every
step of the conversion from above, and the same length rounded down bounds every step that does not
end in saturation from below. -/
theorem resolution_boundsSteps (scale : Scale) (hnumer : scale.numer ≠ 0)
    (hdenom : scale.denom ≠ 0) :
    ∃ converter, ofScale scale = .ok converter ∧
      converter.resolution.toNat = scale.numer.toNat ⌈/⌉ scale.denom.toNat ∧
      ∀ ticks : UInt64, ticks < 0xffffffffffffffff →
        (converter.ticksToNanos (ticks + 1)).toNat ≤
            (converter.ticksToNanos ticks).toNat + converter.resolution.toNat ∧
          (converter.ticksToNanos (ticks + 1) < 0xffffffffffffffff →
            (converter.ticksToNanos ticks).toNat + scale.numer.toNat / scale.denom.toNat ≤
              (converter.ticksToNanos (ticks + 1)).toNat) := by
  obtain ⟨r, rfl, hconverter⟩ := Ratio.exists_converter hnumer hdenom
  refine ⟨.calibrated r, hconverter, r.toNat_resolution, ?_⟩
  intro ticks hticks
  exact ⟨Ratio.toNat_ticksToNanos_succ_le hticks, Ratio.le_toNat_ticksToNanos_succ hticks⟩

/-- A tick of a 24 MHz counter lasts 41 nanoseconds and two thirds, so the last step before
saturation has 41 or 42 of them. -/
theorem megahertz24_boundsSteps :
    Scale.megahertz24.numer ≠ 0 ∧ Scale.megahertz24.denom ≠ 0 ∧
      ∃ converter, ofScale .megahertz24 = .ok converter ∧ converter.resolution.toNat = 42 ∧
        (442721857769029237 : UInt64) < 0xffffffffffffffff ∧
        converter.ticksToNanos (442721857769029237 + 1) < 0xffffffffffffffff ∧
        (converter.ticksToNanos 442721857769029237).toNat + 41 ≤
          (converter.ticksToNanos (442721857769029237 + 1)).toNat ∧
        (converter.ticksToNanos (442721857769029237 + 1)).toNat ≤
          (converter.ticksToNanos 442721857769029237).toNat + 42 := by
  have hnumer : Scale.megahertz24.numer ≠ 0 := by decide
  have hdenom : Scale.megahertz24.denom ≠ 0 := by decide
  obtain ⟨converter, hconverter, hresolution, hsteps⟩ :=
    resolution_boundsSteps .megahertz24 hnumer hdenom
  obtain rfl : .calibrated .megahertz24 = converter := Ratio.calibrated_eq hconverter
  have hticks : (442721857769029237 : UInt64) < 0xffffffffffffffff := by decide
  have hfits : (calibrated .megahertz24).ticksToNanos (442721857769029237 + 1) <
      0xffffffffffffffff := by decide +kernel
  obtain ⟨hupper, hlower⟩ := hsteps 442721857769029237 hticks
  rw [hresolution] at hupper
  exact ⟨hnumer, hdenom, _, hconverter, hresolution, hticks, hfits, hlower hfits, hupper⟩

end Converter

end SoftClock
