import SoftClock.Proofs.Timebase.Conversion
import Mathlib.Algebra.Order.Field.Rat
import Mathlib.Algebra.Order.Field.Basic
import Mathlib.Tactic.Linarith

/-!
# Accuracy of the Conversion from Ticks

The multiplier of a ratio is rounded up, so the error of a conversion grows with the ticks. It is at
most two nanoseconds all the same: the search for headroom leaves no unused bit at the top of the
multiplier, unless it stops at 31 bits, and then the ticks themselves are too few.

* `Scale.headroom?_largest`: the headroom of a scale is the largest that fits;
* `Ratio.ticks_le_of_lt`: ticks that last less than the largest word of nanoseconds are at most
  twice the scaling of the multiplier;
* `Ratio.ticksToNanos_bounds`: the exact value and the result differ by two nanoseconds at most, up
  to saturation, so only long times saturate (`Ratio.lt_exact_of_saturated`);
* `Converter.ticksToNanos_accurate` states this for the converter of every usable scale;
* `Converter.ticksToNanos_exactMultiple`: where the ticks last a whole number of nanoseconds and do
  not exceed the scaling of the multiplier, there is no error at all.

Before that, `Converter.ticksToNanos_isExact` says what is computed: the exact product with the
multiplier, by shifts that lose no bit. `Ratio.shiftedProductWith` traces the operations on the way.
-/

namespace SoftClock

/-! ## The product -/

namespace Ratio

/-- `shiftedProduct` in an arithmetic of words, one operation after the other. -/
def shiftedProductWith {m : Type → Type} [Monad m] (ops : WordArithmetic m) (r : Ratio)
    (ticks : UInt64) : m UInt64 := do
  let product ← WideWord.productWith ops ticks r.multiplier
  let beyond ← ops.shiftRight product.high r.shift
  if beyond ≠ 0 then
    pure 0xffffffffffffffff
  else do
    let high ← ops.shiftLeft product.high (64 - r.shift)
    let low ← ops.shiftRight product.low r.shift
    pure (high ||| low)

/-- With the operations of the words this is `shiftedProduct`. -/
theorem run_shiftedProductWith (r : Ratio) (ticks : UInt64) :
    Id.run (r.shiftedProductWith .wrapping ticks) = r.shiftedProduct ticks := rfl

/-- The amounts by which the product is shifted are proper ones. -/
theorem isShiftAmount_shift (r : Ratio) :
    WordArithmetic.IsShiftAmount r.shift ∧ WordArithmetic.IsShiftAmount (64 - r.shift) := by
  have hextra := r.extraBits_le
  have hshift := r.toNat_shift
  have hback := toNat_sixtyFour_sub (k := r.shift) (by omega)
  constructor
  · rw [WordArithmetic.IsShiftAmount]
    omega
  · rw [WordArithmetic.IsShiftAmount]
    omega

/-- Every arithmetic that is exact without overflow gives the shifted product. -/
theorem shiftedProductWith_eq_pure {m : Type → Type} [Monad m] [LawfulMonad m]
    {ops : WordArithmetic m} (h : ops.IsExact) (r : Ratio) (ticks : UInt64) :
    r.shiftedProductWith ops ticks = pure (r.shiftedProduct ticks) := by
  obtain ⟨hshift, hback⟩ := r.isShiftAmount_shift
  rw [shiftedProductWith, WideWord.productWith_eq_pure h, pure_bind, h.shiftRight _ _ hshift,
    pure_bind, shiftedProduct]
  split
  · rfl
  · -- the result fits, so the two words are put together
    rw [h.shiftLeft _ _ hback, pure_bind, h.shiftRight _ _ hshift, pure_bind]

/-- A conversion shifts words without losing anything. -/
structure ShiftsExactly (r : Ratio) : Prop where
  /-- These are the operations of a conversion. -/
  operations : ∀ ticks, Id.run (r.shiftedProductWith .wrapping ticks) = r.shiftedProduct ticks
  /-- None of them shifts by nothing or by a whole word, and none overflows: in checked arithmetic
  no ticks are refused. -/
  accepted : ∀ ticks, r.shiftedProductWith .checked ticks = some (r.shiftedProduct ticks)
  /-- The fractional bits and the rest of a word are what they are as numbers. -/
  shift : r.shift.toNat = 32 + r.extraBits ∧ (64 - r.shift).toNat + (32 + r.extraBits) = 64
  /-- Where the result does not saturate, the upper word loses no bit on its way up. -/
  high : ∀ ticks, (WideWord.product ticks r.multiplier).high >>> r.shift = 0 →
    ((WideWord.product ticks r.multiplier).high <<< (64 - r.shift)).toNat =
      (WideWord.product ticks r.multiplier).high.toNat * 2 ^ (64 - r.shift).toNat

theorem shiftsExactly (r : Ratio) : r.ShiftsExactly := by
  have hextra := r.extraBits_le
  have hshift := r.toNat_shift
  have hlt : r.shift.toNat < 64 := by omega
  have hback := toNat_sixtyFour_sub hlt
  refine ⟨r.run_shiftedProductWith, r.shiftedProductWith_eq_pure WordArithmetic.isExact_checked,
    ⟨hshift, by omega⟩, fun ticks hzero => ?_⟩
  rw [hback]
  exact toNat_shiftLeft_of_lt _ (by omega) hlt ((shiftRight_eq_zero_iff _ hlt).mp hzero)

end Ratio

namespace Converter

/-- Ticks become nanoseconds by the exact fixed-point product with the multiplier, saturated;
without a timebase the multiplier is zero. -/
theorem toNat_ticksToNanos (converter : Converter) (ticks : UInt64) :
    (converter.ticksToNanos ticks).toNat =
      min (ticks.toNat * converter.multiplier.toNat / 2 ^ (32 + converter.extraBits))
        0xffffffffffffffff := by
  cases converter with
  | degraded => simp [ticksToNanos, multiplier]
  | calibrated r => exact r.toNat_ticksToNanos ticks

/-- Every converter converts by the exact product, saturated. The general way, which forms the
product from halves of words and shifts it, agrees with that where ticks are nanoseconds already,
and shifts without losing anything. So more ticks are never fewer nanoseconds. -/
theorem ticksToNanos_isExact (converter : Converter) :
    (∀ ticks : UInt64, (converter.ticksToNanos ticks).toNat =
        min (ticks.toNat * converter.multiplier.toNat / 2 ^ (32 + converter.extraBits))
          0xffffffffffffffff) ∧
      (∀ r, converter = .calibrated r →
        r.ShiftsExactly ∧ ∀ ticks, converter.ticksToNanos ticks = r.shiftedProduct ticks) ∧
      ∀ t u : UInt64, t ≤ u → converter.ticksToNanos t ≤ converter.ticksToNanos u := by
  refine ⟨converter.toNat_ticksToNanos, ?_, fun t u hle => ?_⟩
  · rintro r rfl
    exact ⟨r.shiftsExactly, r.ticksToNanos_eq_shiftedProduct⟩
  · rw [UInt64.le_iff_toNat_le, toNat_ticksToNanos, toNat_ticksToNanos]
    exact min_le_min_right _ (Nat.div_le_div_right (Nat.mul_le_mul_right _ hle))

/-- The last count of ticks that a 24 MHz counter shows before its nanoseconds saturate uses both
words of the product. -/
theorem megahertz24_isExact :
    (WideWord.product 442721857769029238 Ratio.megahertz24.multiplier).high ≠ 0 ∧
      Ratio.megahertz24.ShiftsExactly ∧
      (3 : UInt64) ≤ 442721857769029238 ∧
      (calibrated .megahertz24).ticksToNanos 3 ≤
        (calibrated .megahertz24).ticksToNanos 442721857769029238 := by
  obtain ⟨-, hshifts, hmono⟩ := ticksToNanos_isExact (.calibrated .megahertz24)
  exact ⟨by decide +kernel, (hshifts _ rfl).1, by decide, hmono 3 442721857769029238 (by decide)⟩

end Converter

/-! ## The multiplier -/

namespace Scale

variable {s : Scale} {multiplier : UInt64} {extra : ℕ}

/-- The multiplier is rounded up. -/
theorem le_scaledMultiplier_mul (hdenom : 0 < s.denom.toNat) (extra : ℕ) :
    s.numer.toNat * 2 ^ (32 + extra) ≤ s.scaledMultiplier extra * s.denom.toNat := by
  have hdiv := Nat.div_add_mod (s.numer.toNat <<< (32 + extra) + (s.denom.toNat - 1)) s.denom.toNat
  have hmod := Nat.mod_lt (s.numer.toNat <<< (32 + extra) + (s.denom.toNat - 1)) hdenom
  rw [scaledMultiplier, Nat.mul_comm _ s.denom.toNat]
  rw [Nat.shiftLeft_eq] at *
  omega

/-- The multiplier is rounded up by less than one. -/
theorem scaledMultiplier_mul_lt (hdenom : 0 < s.denom.toNat) (extra : ℕ) :
    s.scaledMultiplier extra * s.denom.toNat <
      s.numer.toNat * 2 ^ (32 + extra) + s.denom.toNat := by
  have hle := Nat.div_mul_le_self (s.numer.toNat <<< (32 + extra) + (s.denom.toNat - 1))
    s.denom.toNat
  rw [scaledMultiplier]
  rw [Nat.shiftLeft_eq] at *
  omega

/-- The search for headroom finds the largest one of at most 31 bits that leaves the multiplier in a
word. -/
theorem headroom?_largest (h : s.headroom? = some (multiplier, extra)) :
    extra ≤ 31 ∧ multiplier.toNat = s.scaledMultiplier extra ∧
      ∀ more, extra < more → more ≤ 31 → 0x10000000000000000 ≤ s.scaledMultiplier more := by
  rw [headroom?, List.findSome?_eq_some_iff] at h
  obtain ⟨larger, found, smaller, hsearch, hfound, hlarger⟩ := h
  have hmem (k : ℕ) : k ∈ larger ++ found :: smaller ↔ k ≤ 31 := by
    rw [← hsearch, List.mem_reverse, List.mem_range, Nat.lt_succ_iff]
  split at hfound
  · rename_i hfits
    rw [Option.some.injEq, Prod.mk.injEq] at hfound
    obtain ⟨rfl, rfl⟩ := hfound
    refine ⟨(hmem found).mp (by simp), UInt64.toNat_ofNat_of_lt hfits, fun more hlt hle => ?_⟩
    -- what is larger was tried before
    have hsorted : (larger ++ found :: smaller).Pairwise (· > ·) := by
      rw [← hsearch, List.pairwise_reverse]
      exact List.pairwise_lt_range
    have hsmaller := (List.pairwise_cons.mp (List.pairwise_append.mp hsorted).2.1).1
    rcases List.mem_append.mp ((hmem more).mpr hle) with hmore | hmore
    · have hnone := hlarger more hmore
      split at hnone
      · cases hnone
      · rename_i hover
        exact Nat.le_of_not_lt hover
    · rcases List.mem_cons.mp hmore with rfl | hmore
      · exact absurd hlt (Nat.lt_irrefl _)
      · exact absurd (hsmaller more hmore) (Nat.lt_asymm hlt)
  · cases hfound

end Scale

namespace Ratio

variable (r : Ratio)

/-- The multiplier of a ratio is that of its scale and headroom. -/
theorem toNat_multiplier : r.multiplier.toNat = r.scale.scaledMultiplier r.extraBits := by
  by_cases h : r.scale.isIdentity = true
  · -- equal terms give the multiplier one exactly
    obtain ⟨hmultiplier, hbits⟩ := r.fixedPoint_of_isIdentity h
    have hterms : r.scale.numer = r.scale.denom := by simpa [Scale.isIdentity] using h
    have hdenom := r.denom_pos
    rw [hmultiplier, hbits, Scale.scaledMultiplier, hterms, Nat.shiftLeft_eq,
      Nat.mul_add_div hdenom, Nat.div_eq_of_lt (by omega)]
    rfl
  · exact (Scale.headroom?_largest (r.headroom_of_not_isIdentity h)).2.1

/-- The multiplier is at least the scaled ratio. -/
theorem le_multiplier_mul :
    r.scale.numer.toNat * 2 ^ (32 + r.extraBits) ≤ r.multiplier.toNat * r.scale.denom.toNat := by
  rw [toNat_multiplier]
  exact Scale.le_scaledMultiplier_mul r.denom_pos _

/-- The multiplier exceeds the scaled ratio by less than one. -/
theorem multiplier_mul_lt :
    r.multiplier.toNat * r.scale.denom.toNat <
      r.scale.numer.toNat * 2 ^ (32 + r.extraBits) + r.scale.denom.toNat := by
  rw [toNat_multiplier]
  exact Scale.scaledMultiplier_mul_lt r.denom_pos _

variable {r}

/-- A multiplier with less than the largest headroom has its top bit set. -/
theorem le_multiplier_of_extraBits_lt (hidentity : ¬ r.scale.isIdentity = true)
    (hextra : r.extraBits < 31) : 0x8000000000000000 ≤ r.multiplier.toNat := by
  have hdenom := r.denom_pos
  -- with one more bit of headroom the multiplier does not fit
  have hover := (Scale.headroom?_largest (r.headroom_of_not_isIdentity hidentity)).2.2
    (r.extraBits + 1) (Nat.lt_succ_self _) hextra
  have hmore := Scale.scaledMultiplier_mul_lt (s := r.scale) hdenom (r.extraBits + 1)
  have hwide := Nat.mul_le_mul_right r.scale.denom.toNat hover
  have hlow := r.le_multiplier_mul
  rw [show 32 + (r.extraBits + 1) = 32 + r.extraBits + 1 by rfl, Nat.pow_succ,
    ← Nat.mul_assoc] at hmore
  -- twice a multiplier without its top bit would still fit
  by_contra hsmall
  have hroom := Nat.mul_le_mul_right r.scale.denom.toNat
    (Nat.le_of_lt_succ (Nat.lt_of_not_le hsmall))
  omega

/-- A count of ticks that scales to less than `2 * k + 1` is at most twice the scaling `p`, where
the rounded-up multiplier `m` exceeds `k`. -/
theorem le_two_mul_of_scaled_lt {t n d m p k : ℕ} (hp : 0 < p) (hscaling : p ≤ k) (hm : k < m)
    (hrounded : m * d < n * p + d) (ht : t * n < (2 * k + 1) * d) : t ≤ 2 * p := by
  -- rounding up added less than one, so `k` alone is not above the exact multiplier
  have hk : k * d ≤ n * p := by
    have hsucc := Nat.mul_le_mul_right d (Nat.succ_le_of_lt hm)
    rw [Nat.succ_mul] at hsucc
    omega
  have hscaled : d * (t * k) < d * ((2 * k + 1) * p) := by
    calc d * (t * k) = t * (k * d) := by ring
      _ ≤ t * (n * p) := Nat.mul_le_mul_left t hk
      _ = t * n * p := by ring
      _ < (2 * k + 1) * d * p := Nat.mul_lt_mul_of_pos_right ht hp
      _ = d * ((2 * k + 1) * p) := by ring
  have hcancelled := Nat.lt_of_mul_lt_mul_left hscaled
  -- one tick more would make up for the whole scaling
  by_contra hlarge
  have hover : (2 * p + 1) * k ≤ t * k := Nat.mul_le_mul_right k (Nat.lt_of_not_le hlarge)
  have hexchange : (2 * p + 1) * k + p = (2 * k + 1) * p + k := by ring
  omega

/-- Ticks that last less than the largest word of nanoseconds are at most twice the scaling of the
multiplier. -/
theorem ticks_le_of_lt (hidentity : ¬ r.scale.isIdentity = true) {ticks : UInt64}
    (hticks : ticks.toNat * r.scale.numer.toNat < 0xffffffffffffffff * r.scale.denom.toNat) :
    ticks.toNat ≤ 2 * 2 ^ (32 + r.extraBits) := by
  by_cases hextra : r.extraBits < 31
  · have hscaling : 2 ^ (32 + r.extraBits) ≤ 2 ^ 62 := Nat.pow_le_pow_right (by decide) (by omega)
    refine le_two_mul_of_scaled_lt (k := 0x7fffffffffffffff) (Nat.two_pow_pos _) (by omega) ?_
      r.multiplier_mul_lt hticks
    exact le_multiplier_of_extraBits_lt hidentity hextra
  · -- with the largest headroom this is the range of a word
    have hlargest : r.extraBits = 31 := by
      have := r.extraBits_le
      omega
    rw [hlargest]
    exact ticks.toNat_lt.le

/-! ## The error of a conversion -/

/-- Scaling by a rounded-up multiplier gives the exact quotient or more. -/
theorem quotient_le_scaled {t n d m p : ℕ} (hdenom : 0 < d) (hp : 0 < p) (hlow : n * p ≤ m * d) :
    t * n / d ≤ t * m / p := by
  rw [Nat.le_div_iff_mul_le hp]
  refine Nat.le_of_mul_le_mul_left ?_ hdenom
  calc d * (t * n / d * p) = t * n / d * d * p := by ring
    _ ≤ t * n * p := Nat.mul_le_mul_right p (Nat.div_mul_le_self _ d)
    _ = t * (n * p) := by ring
    _ ≤ t * (m * d) := Nat.mul_le_mul_left t hlow
    _ = d * (t * m) := by ring

/-- Scaling by a rounded-up multiplier adds at most two to the exact quotient, for a number of at
most twice the scaling. -/
theorem scaled_le_quotient_add_two {t n d m p : ℕ} (hdenom : 0 < d) (hp : 0 < p)
    (hhigh : m * d ≤ n * p + d) (ht : t ≤ 2 * p) : t * m / p ≤ t * n / d + 2 := by
  have hquotient : t * n < (t * n / d + 1) * d :=
    Nat.lt_mul_of_div_lt (Nat.lt_succ_self _) hdenom
  rw [← Nat.lt_succ_iff, Nat.div_lt_iff_lt_mul hp]
  refine Nat.lt_of_mul_lt_mul_left (a := d) ?_
  calc d * (t * m) = t * (m * d) := by ring
    _ ≤ t * (n * p + d) := Nat.mul_le_mul_left t hhigh
    _ = t * n * p + t * d := by ring
    _ < (t * n / d + 1) * d * p + 2 * p * d :=
      Nat.add_lt_add_of_lt_of_le (Nat.mul_lt_mul_of_pos_right hquotient hp)
        (Nat.mul_le_mul_right d ht)
    _ = d * ((t * n / d + 2).succ * p) := by rw [Nat.succ_eq_add_one]; ring

/-- Up to saturation a conversion gives the whole nanoseconds of the ticks, or up to two more. -/
theorem ticksToNanos_bounds (r : Ratio) (ticks : UInt64) :
    min (ticks.toNat * r.scale.numer.toNat / r.scale.denom.toNat) 0xffffffffffffffff ≤
        (r.ticksToNanos ticks).toNat ∧
      (r.ticksToNanos ticks).toNat ≤
        min (ticks.toNat * r.scale.numer.toNat / r.scale.denom.toNat + 2) 0xffffffffffffffff := by
  have hdenom := r.denom_pos
  have hpow : 0 < 2 ^ (32 + r.extraBits) := Nat.two_pow_pos _
  rw [toNat_ticksToNanos]
  refine ⟨min_le_min_right _ (quotient_le_scaled hdenom hpow r.le_multiplier_mul), ?_⟩
  by_cases hidentity : r.scale.isIdentity = true
  · -- ticks are nanoseconds, and the multiplier is the scaling
    obtain ⟨hmultiplier, hbits⟩ := r.fixedPoint_of_isIdentity hidentity
    have hterms : r.scale.numer = r.scale.denom := by simpa [Scale.isIdentity] using hidentity
    rw [hmultiplier, hbits, hterms, Nat.mul_div_cancel _ hdenom]
    change min (ticks.toNat * 0x100000000 / 0x100000000) _ ≤ _
    omega
  · rcases Nat.lt_or_ge (ticks.toNat * r.scale.numer.toNat)
      (0xffffffffffffffff * r.scale.denom.toNat) with hlt | hge
    · exact min_le_min_right _ (scaled_le_quotient_add_two hdenom hpow r.multiplier_mul_lt.le
        (ticks_le_of_lt hidentity hlt))
    · -- the exact value saturates by itself
      have hquotient := (Nat.le_div_iff_mul_le hdenom).mpr hge
      omega

/-- Only ticks that last longer than `2 ^ 64 - 4` nanoseconds give the largest word, which stands
for all values that do not fit. -/
theorem lt_exact_of_saturated (r : Ratio) {ticks : UInt64}
    (h : r.ticksToNanos ticks = 0xffffffffffffffff) :
    (0x10000000000000000 - 4 : ℚ) <
      ticks.toNat * r.scale.numer.toNat / r.scale.denom.toNat := by
  have hlargest : (r.ticksToNanos ticks).toNat = 0xffffffffffffffff := by rw [h]; rfl
  -- two nanoseconds below the largest word are still above the bound
  have hquotient :
      0xfffffffffffffffd ≤ ticks.toNat * r.scale.numer.toNat / r.scale.denom.toNat := by
    have := (r.ticksToNanos_bounds ticks).2
    omega
  have hproduct : ((0xfffffffffffffffd * r.scale.denom.toNat : ℕ) : ℚ) ≤
      (ticks.toNat * r.scale.numer.toNat : ℕ) :=
    Nat.cast_le.mpr ((Nat.le_div_iff_mul_le r.denom_pos).mp hquotient)
  -- over the rationals the division is exact, so the bound can be multiplied out
  have hpos : (0 : ℚ) < r.scale.denom.toNat := Nat.cast_pos.mpr r.denom_pos
  rw [lt_div_iff₀ hpos]
  push_cast at hproduct
  linarith

end Ratio

namespace Converter

/-- The conversion of every usable scale is accurate to two nanoseconds: up to saturation it gives
the whole nanoseconds of the ticks, or up to two more. The largest word, which stands for all values
that do not fit, is the answer only for ticks that last longer than `2 ^ 64 - 4` nanoseconds. -/
theorem ticksToNanos_accurate (scale : Scale) (hnumer : scale.numer ≠ 0)
    (hdenom : scale.denom ≠ 0) :
    ∃ converter, ofScale scale = .ok converter ∧ ∀ ticks : UInt64,
      (min (ticks.toNat * scale.numer.toNat / scale.denom.toNat) 0xffffffffffffffff ≤
          (converter.ticksToNanos ticks).toNat ∧
        (converter.ticksToNanos ticks).toNat ≤
          min (ticks.toNat * scale.numer.toNat / scale.denom.toNat + 2) 0xffffffffffffffff) ∧
      (converter.ticksToNanos ticks = 0xffffffffffffffff →
        (0x10000000000000000 - 4 : ℚ) <
          ticks.toNat * scale.numer.toNat / scale.denom.toNat) := by
  obtain ⟨r, hr⟩ := Ratio.exists_ofScale_iff.mpr ⟨hnumer, hdenom⟩
  have hscale := Ratio.scale_of_ofScale hr
  subst hscale
  refine ⟨.calibrated r, by rw [ofScale, hr]; rfl, fun ticks => ?_⟩
  exact ⟨r.ticksToNanos_bounds ticks, r.lt_exact_of_saturated⟩

theorem megahertz24_accurate :
    Scale.megahertz24.numer ≠ 0 ∧ Scale.megahertz24.denom ≠ 0 ∧
      ∃ converter, ofScale .megahertz24 = .ok converter ∧ ∀ ticks : UInt64,
        (min (ticks.toNat * 1000000000 / 24000000) 0xffffffffffffffff ≤
            (converter.ticksToNanos ticks).toNat ∧
          (converter.ticksToNanos ticks).toNat ≤
            min (ticks.toNat * 1000000000 / 24000000 + 2) 0xffffffffffffffff) ∧
        (converter.ticksToNanos ticks = 0xffffffffffffffff →
          (0x10000000000000000 - 4 : ℚ) < ticks.toNat * (1000000000 : ℕ) / (24000000 : ℕ)) := by
  have hnumer : Scale.megahertz24.numer ≠ 0 := by decide
  have hdenom : Scale.megahertz24.denom ≠ 0 := by decide
  exact ⟨hnumer, hdenom, ticksToNanos_accurate .megahertz24 hnumer hdenom⟩

end Converter

/-! ## Exact multiples -/

namespace Ratio

/-- A number that is at most the scaling and a multiple of the exact ratio scales to the exact
quotient. -/
theorem scaled_eq_quotient {t n d m p : ℕ} (hdenom : 0 < d) (hp : 0 < p) (hlow : n * p ≤ m * d)
    (hhigh : m * d < n * p + d) (ht : t ≤ p) (hdvd : d ∣ t * n) : t * m / p = t * n / d := by
  apply le_antisymm
  · obtain ⟨q, hq⟩ := hdvd
    rw [hq, Nat.mul_div_cancel_left q hdenom, ← Nat.lt_succ_iff, Nat.div_lt_iff_lt_mul hp]
    rcases Nat.eq_zero_or_pos t with rfl | hpos
    · rw [Nat.zero_mul]
      exact Nat.mul_pos (Nat.succ_pos q) hp
    · -- what rounding up adds to each tick comes to less than one nanosecond for all of them
      apply Nat.lt_of_mul_lt_mul_left (a := d)
      calc d * (t * m) = t * (m * d) := by ring
        _ < t * (n * p + d) := Nat.mul_lt_mul_of_pos_left hhigh hpos
        _ = t * n * p + t * d := by ring
        _ ≤ d * q * p + p * d := by
          rw [hq]
          exact Nat.add_le_add_left (Nat.mul_le_mul_right d ht) _
        _ = d * (q.succ * p) := by rw [Nat.succ_eq_add_one]; ring
  · exact quotient_le_scaled hdenom hp hlow

/-- Ticks that last a whole number of nanoseconds are converted without an error, as long as they do
not exceed the scaling of the multiplier and the result fits a word. -/
theorem toNat_ticksToNanos_of_dvd (r : Ratio) {ticks : UInt64}
    (hticks : ticks.toNat ≤ 2 ^ (32 + r.extraBits))
    (hdvd : r.scale.denom.toNat ∣ ticks.toNat * r.scale.numer.toNat)
    (hfits : ticks.toNat * r.scale.numer.toNat / r.scale.denom.toNat < 0x10000000000000000) :
    (r.ticksToNanos ticks).toNat =
      ticks.toNat * r.scale.numer.toNat / r.scale.denom.toNat := by
  have hexact := scaled_eq_quotient r.denom_pos (Nat.two_pow_pos (32 + r.extraBits))
    r.le_multiplier_mul r.multiplier_mul_lt hticks hdvd
  rw [toNat_ticksToNanos, hexact]
  exact min_eq_left (Nat.le_of_lt_succ hfits)

end Ratio

namespace Converter

/-- Exact multiples cancel exactly, for every usable scale: ticks that last a whole number of
nanoseconds become that number. The multiplier is rounded up for this, and its fractional bits say
up to which count of ticks it holds. -/
theorem ticksToNanos_exactMultiple (scale : Scale) (hnumer : scale.numer ≠ 0)
    (hdenom : scale.denom ≠ 0) :
    ∃ converter, ofScale scale = .ok converter ∧ ∀ ticks : UInt64,
      ticks.toNat ≤ 2 ^ (32 + converter.extraBits) →
      scale.denom.toNat ∣ ticks.toNat * scale.numer.toNat →
      ticks.toNat * scale.numer.toNat / scale.denom.toNat < 0x10000000000000000 →
      (converter.ticksToNanos ticks).toNat =
        ticks.toNat * scale.numer.toNat / scale.denom.toNat := by
  obtain ⟨r, rfl, hconverter⟩ := Ratio.exists_converter hnumer hdenom
  refine ⟨.calibrated r, hconverter, ?_⟩
  intro ticks hticks hdvd hfits
  exact r.toNat_ticksToNanos_of_dvd hticks hdvd hfits

/-- With its 58 fractional bits a 24 MHz counter converts the largest count of ticks that is
eligible and a multiple of three, of 125 nanoseconds each. -/
theorem megahertz24_exactMultiple :
    Scale.megahertz24.numer ≠ 0 ∧ Scale.megahertz24.denom ≠ 0 ∧
      ∃ converter, ofScale .megahertz24 = .ok converter ∧
        288230376151711743 ≤ 2 ^ (32 + converter.extraBits) ∧
        24000000 ∣ 288230376151711743 * 1000000000 ∧
        288230376151711743 * 1000000000 / 24000000 < 0x10000000000000000 ∧
        (converter.ticksToNanos 288230376151711743).toNat = 12009599006321322625 := by
  have hnumer : Scale.megahertz24.numer ≠ 0 := by decide
  have hdenom : Scale.megahertz24.denom ≠ 0 := by decide
  obtain ⟨converter, hconverter, hexact⟩ := ticksToNanos_exactMultiple .megahertz24 hnumer hdenom
  obtain rfl : .calibrated .megahertz24 = converter := Ratio.calibrated_eq hconverter
  have hticks : 288230376151711743 ≤ 2 ^ (32 + (calibrated .megahertz24).extraBits) := by decide
  have hdvd : 24000000 ∣ 288230376151711743 * 1000000000 := by decide
  have hfits : 288230376151711743 * 1000000000 / 24000000 < 0x10000000000000000 := by decide
  exact ⟨hnumer, hdenom, _, hconverter, hticks, hdvd, hfits,
    hexact 288230376151711743 hticks hdvd hfits⟩

end Converter

end SoftClock
