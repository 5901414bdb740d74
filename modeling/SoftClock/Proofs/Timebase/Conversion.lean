import SoftClock.Timebase.Converter
import SoftClock.Proofs.Timebase.Product
import SoftClock.Proofs.Word.Clamp
import Mathlib.Algebra.Order.Group.Nat
import Mathlib.Algebra.Order.Ring.Nat
import Mathlib.Tactic.Ring

/-!
# Conversions in Numeral Form

What the conversions of a `Ratio` compute, as functions of numbers.

* `Ratio.toNat_ticksToNanos`: ticks become nanoseconds by the exact fixed-point product, saturated;
* `Ratio.ticksToNanos_le_ticksToNanos`: more ticks are never fewer nanoseconds;
* `Ratio.toNat_nanosToTicks`: the way back is the floor of the exact quotient, saturated;
* `Ratio.toInt_signedNanosToTicks`: the signed variant converts the magnitude, saturated;
* `Ratio.toInt_signedNanosToTicks_eq_tdiv`: in range it rounds the exact quotient toward zero.
-/

namespace SoftClock.Ratio

/-- The ratio of a counter whose ticks are nanoseconds. -/
def identity : Ratio := ⟨.identity, 0x100000000, 0, by decide⟩

/-- The ratio of a 24 MHz counter. -/
def megahertz24 : Ratio := ⟨.megahertz24, 12009599006321322667, 26, by decide +kernel⟩

/-! ## What a ratio is derived from -/

/-- The ratio of a scale has that scale. -/
theorem scale_of_ofScale {scale : Scale} {r : Ratio} (h : Ratio.ofScale scale = .ok r) :
    r.scale = scale := by
  unfold Ratio.ofScale at h
  split at h
  · cases h
    rfl
  · split at h <;> cases h

/-- A ratio is that of its scale. -/
theorem ofScale_scale (r : Ratio) : Ratio.ofScale r.scale = .ok r := by
  obtain ⟨scale, multiplier, extraBits, hderived⟩ := r
  unfold Ratio.ofScale
  split
  · rename_i hfound
    rw [hderived, Option.some.injEq, Prod.mk.injEq] at hfound
    obtain ⟨rfl, rfl⟩ := hfound
    rfl
  · rename_i hnone
    rw [hderived] at hnone
    cases hnone

/-- Every scale without a zero term has a ratio, since its multiplier fits without headroom. -/
theorem exists_ofScale {scale : Scale} (h : scale.isUsable = true) :
    ∃ r, Ratio.ofScale scale = .ok r := by
  have hfits : scale.scaledMultiplier 0 < 0x10000000000000000 := by
    have hnumer := scale.numer.toNat_lt
    have hdenom : 0 < scale.denom.toNat := by
      rw [Scale.isUsable, Bool.and_eq_true] at h
      exact UInt32.pos_iff_ne_zero.mpr (by simpa using h.2)
    rw [Scale.scaledMultiplier, Nat.div_lt_iff_lt_mul hdenom, Nat.shiftLeft_eq]
    -- a numerator of 32 bits leaves room for the rounding
    have hscaled : scale.numer.toNat * 2 ^ (32 + 0) ≤ 0xffffffff00000000 * 1 := by omega
    have hround : 0xffffffff00000000 * 1 ≤ 0xffffffff00000000 * scale.denom.toNat :=
      Nat.mul_le_mul_left _ hdenom
    omega
  have hfound : (scale.fixedPoint?).isSome := by
    rw [Scale.fixedPoint?, if_pos h]
    split
    · rfl
    · rw [Scale.headroom?, List.findSome?_isSome_iff]
      exact ⟨0, by simp, by rw [if_pos hfits]; rfl⟩
  obtain ⟨⟨multiplier, extraBits⟩, hderived⟩ := Option.isSome_iff_exists.mp hfound
  exact ⟨_, ofScale_scale ⟨scale, multiplier, extraBits, hderived⟩⟩

theorem isUsable (r : Ratio) : r.scale.isUsable = true := by
  by_contra h
  have hderived := r.isDerived
  rw [Scale.fixedPoint?, if_neg h] at hderived
  cases hderived

/-- A scale has a ratio exactly if neither term is zero. -/
theorem exists_ofScale_iff {scale : Scale} :
    (∃ r, Ratio.ofScale scale = .ok r) ↔ scale.numer ≠ 0 ∧ scale.denom ≠ 0 := by
  have husable : scale.isUsable = true ↔ scale.numer ≠ 0 ∧ scale.denom ≠ 0 := by
    simp [Scale.isUsable]
  rw [← husable]
  constructor
  · rintro ⟨r, hr⟩
    rw [← scale_of_ofScale hr]
    exact r.isUsable
  · exact exists_ofScale

/-- The converter of a scale that has a ratio. -/
theorem converter_ofScale_scale (r : Ratio) : Converter.ofScale r.scale = .ok (.calibrated r) := by
  rw [Converter.ofScale, ofScale_scale]
  rfl

theorem calibrated_eq {r : Ratio} {converter : Converter}
    (hconverter : Converter.ofScale r.scale = .ok converter) : .calibrated r = converter :=
  Except.ok.inj (r.converter_ofScale_scale.symm.trans hconverter)

/-- Every scale without a zero term has a converter, which holds its ratio. -/
theorem exists_converter {scale : Scale} (hnumer : scale.numer ≠ 0) (hdenom : scale.denom ≠ 0) :
    ∃ r : Ratio, r.scale = scale ∧ Converter.ofScale scale = .ok (.calibrated r) := by
  obtain ⟨r, hr⟩ := exists_ofScale_iff.mpr ⟨hnumer, hdenom⟩
  have hscale := scale_of_ofScale hr
  exact ⟨r, hscale, hscale ▸ r.converter_ofScale_scale⟩

theorem numer_pos (r : Ratio) : 0 < r.scale.numer.toNat := by
  have h := r.isUsable
  rw [Scale.isUsable, Bool.and_eq_true] at h
  exact UInt32.pos_iff_ne_zero.mpr (by simpa using h.1)

theorem denom_pos (r : Ratio) : 0 < r.scale.denom.toNat := by
  have h := r.isUsable
  rw [Scale.isUsable, Bool.and_eq_true] at h
  exact UInt32.pos_iff_ne_zero.mpr (by simpa using h.2)

/-- A scale whose ticks are nanoseconds has the multiplier one, without headroom. -/
theorem fixedPoint_of_isIdentity (r : Ratio) (h : r.scale.isIdentity = true) :
    r.multiplier = 0x100000000 ∧ r.extraBits = 0 := by
  have hderived := r.isDerived
  rw [Scale.fixedPoint?, if_pos r.isUsable, if_pos h, Option.some.injEq, Prod.mk.injEq] at hderived
  exact ⟨hderived.1.symm, hderived.2.symm⟩

/-- Any other scale has its multiplier from the search for headroom. -/
theorem headroom_of_not_isIdentity (r : Ratio) (h : ¬ r.scale.isIdentity = true) :
    r.scale.headroom? = some (r.multiplier, r.extraBits) := by
  have hderived := r.isDerived
  rwa [Scale.fixedPoint?, if_pos r.isUsable, if_neg h] at hderived

theorem extraBits_le (r : Ratio) : r.extraBits ≤ 31 := by
  by_cases h : r.scale.isIdentity = true
  · rw [(r.fixedPoint_of_isIdentity h).2]
    exact Nat.zero_le _
  · -- the search for headroom tries no more than 31 bits
    obtain ⟨extra, hmem, hfound⟩ :=
      List.exists_of_findSome?_eq_some (r.headroom_of_not_isIdentity h)
    rw [List.mem_reverse, List.mem_range] at hmem
    split at hfound
    · rw [Option.some.injEq, Prod.mk.injEq] at hfound
      omega
    · cases hfound

theorem toNat_shift (r : Ratio) : r.shift.toNat = 32 + r.extraBits := by
  have := r.extraBits_le
  rw [shift, UInt64.toNat_ofNat']
  omega

/-! ## From ticks to nanoseconds -/

/-- Nothing is left of a word after a shift to the right exactly if the word lies below the bit that
becomes the lowest. -/
theorem shiftRight_eq_zero_iff (w : UInt64) {k : UInt64} (hlt : k.toNat < 64) :
    w >>> k = 0 ↔ w.toNat < 2 ^ k.toNat := by
  rw [← UInt64.toNat_inj, UInt64.toNat_shiftRight, Nat.mod_eq_of_lt hlt,
    Nat.shiftRight_eq_div_pow]
  exact Nat.div_eq_zero_iff_lt (Nat.two_pow_pos _)

/-- The amount that brings back what a shift by `k` bits moves to the next word. -/
theorem toNat_sixtyFour_sub {k : UInt64} (hlt : k.toNat < 64) : (64 - k).toNat = 64 - k.toNat := by
  rw [UInt64.toNat_sub_of_le]
  · rfl
  · exact UInt64.le_iff_toNat_le.mpr hlt.le

/-- A word that lies below bit `k` loses no bit when it is shifted left by the rest of a word. -/
theorem toNat_shiftLeft_of_lt (high : UInt64) {k : UInt64} (hpos : 0 < k.toNat)
    (hlt : k.toNat < 64) (hhigh : high.toNat < 2 ^ k.toNat) :
    (high <<< (64 - k)).toNat = high.toNat * 2 ^ (64 - k.toNat) := by
  have hfits : high.toNat * 2 ^ (64 - k.toNat) < 2 ^ 64 := by
    calc high.toNat * 2 ^ (64 - k.toNat) < 2 ^ k.toNat * 2 ^ (64 - k.toNat) :=
          Nat.mul_lt_mul_of_pos_right hhigh (Nat.two_pow_pos _)
      _ = 2 ^ 64 := by rw [← Nat.pow_add, Nat.add_sub_cancel' hlt.le]
  rw [UInt64.toNat_shiftLeft, toNat_sixtyFour_sub hlt,
    Nat.mod_eq_of_lt (by omega : 64 - k.toNat < 64), Nat.shiftLeft_eq, Nat.mod_eq_of_lt hfits]

/-- Shifting a double word right by `k` bits, where the upper word fits below bit `k`. -/
theorem toNat_shiftRight_wide (high low : UInt64) {k : UInt64} (hpos : 0 < k.toNat)
    (hlt : k.toNat < 64) (hhigh : high.toNat < 2 ^ k.toNat) :
    ((high <<< (64 - k)) ||| (low >>> k)).toNat =
      (high.toNat * 2 ^ 64 + low.toNat) / 2 ^ k.toNat := by
  have hlow := low.toNat_lt
  have hsplit : (2 : ℕ) ^ 64 = 2 ^ (64 - k.toNat) * 2 ^ k.toNat := by
    rw [← Nat.pow_add]
    congr 1
    omega
  have hdigit : low.toNat / 2 ^ k.toNat < 2 ^ (64 - k.toNat) :=
    Nat.div_lt_of_lt_mul (by rw [Nat.mul_comm, ← hsplit]; exact hlow)
  -- the two parts have no bit in common, so their union is their sum
  rw [UInt64.toNat_or, toNat_shiftLeft_of_lt high hpos hlt hhigh, UInt64.toNat_shiftRight,
    Nat.mod_eq_of_lt hlt, Nat.shiftRight_eq_div_pow, ← Nat.shiftLeft_eq,
    ← Nat.shiftLeft_add_eq_or_of_lt hdigit, Nat.shiftLeft_eq, hsplit, ← Nat.mul_assoc]
  rw [Nat.mul_comm _ (2 ^ k.toNat), Nat.mul_add_div (Nat.two_pow_pos _)]

/-- A double word divided by a number fits a word exactly if its upper word is below that number. -/
theorem wide_div_lt_iff (high : ℕ) {low k : ℕ} (hlow : low < 0x10000000000000000) (hk : 0 < k) :
    (high * 0x10000000000000000 + low) / k < 0x10000000000000000 ↔ high < k := by
  rw [Nat.div_lt_iff_lt_mul hk]
  constructor
  · intro h
    by_contra hle
    have := Nat.mul_le_mul_right 0x10000000000000000 (Nat.le_of_not_lt hle)
    omega
  · intro h
    have := Nat.mul_le_mul_right 0x10000000000000000 (Nat.succ_le_of_lt h)
    omega

/-- Nanoseconds by the wide product, whatever the scale. A scale whose ticks are nanoseconds does
without it. -/
def shiftedProduct (r : Ratio) (ticks : UInt64) : UInt64 :=
  let product := WideWord.product ticks r.multiplier
  if product.high >>> r.shift ≠ 0 then 0xffffffffffffffff
  else (product.high <<< (64 - r.shift)) ||| (product.low >>> r.shift)

/-- The wide product is the exact one, shifted and saturated. -/
theorem toNat_shiftedProduct (r : Ratio) (ticks : UInt64) :
    (r.shiftedProduct ticks).toNat =
      min (ticks.toNat * r.multiplier.toNat / 2 ^ (32 + r.extraBits)) 0xffffffffffffffff := by
  have hextra := r.extraBits_le
  have hshift := r.toNat_shift
  rw [shiftedProduct, ← WideWord.toNat_product ticks r.multiplier, WideWord.toNat, ← hshift]
  generalize WideWord.product ticks r.multiplier = product
  have hzero := shiftRight_eq_zero_iff product.high (k := r.shift) (by omega)
  have hsaturates :=
    wide_div_lt_iff product.high.toNat product.low.toNat_lt (Nat.two_pow_pos r.shift.toNat)
  by_cases hhigh : product.high.toNat < 2 ^ r.shift.toNat
  · -- nothing is left of the upper word, and the quotient fits
    have hfits := hsaturates.mpr hhigh
    simp only [hzero.mpr hhigh, ne_eq, not_true_eq_false, ↓reduceIte]
    rw [toNat_shiftRight_wide _ _ (by omega) (by omega) hhigh, min_eq_left]
    · rfl
    · exact Nat.le_of_lt_succ hfits
  · -- a bit is left of the upper word, and the quotient is too large
    have hover := Nat.le_of_not_lt (mt hsaturates.mp hhigh)
    simp only [mt hzero.mp hhigh, ne_eq, not_false_eq_true, ↓reduceIte]
    rw [min_eq_right (Nat.le_of_succ_le hover)]
    rfl

/-- Where ticks are nanoseconds already, the product would give the ticks back. -/
theorem shiftedProduct_of_isIdentity (r : Ratio) (h : r.scale.isIdentity = true) (ticks : UInt64) :
    r.shiftedProduct ticks = ticks := by
  have hticks := ticks.toNat_lt
  obtain ⟨hmultiplier, hbits⟩ := r.fixedPoint_of_isIdentity h
  rw [← UInt64.toNat_inj, toNat_shiftedProduct, hmultiplier, hbits]
  change min (ticks.toNat * 0x100000000 / 0x100000000) 0xffffffffffffffff = ticks.toNat
  omega

/-- The conversion is the wide product, also where it takes the short way. -/
theorem ticksToNanos_eq_shiftedProduct (r : Ratio) (ticks : UInt64) :
    r.ticksToNanos ticks = r.shiftedProduct ticks := by
  by_cases h : r.scale.isIdentity = true
  · rw [ticksToNanos, if_pos h, r.shiftedProduct_of_isIdentity h]
  · rw [ticksToNanos, if_neg h]
    rfl

/-- Ticks become nanoseconds by the exact fixed-point product, saturated. -/
theorem toNat_ticksToNanos (r : Ratio) (ticks : UInt64) :
    (r.ticksToNanos ticks).toNat =
      min (ticks.toNat * r.multiplier.toNat / 2 ^ (32 + r.extraBits)) 0xffffffffffffffff := by
  rw [ticksToNanos_eq_shiftedProduct, toNat_shiftedProduct]

/-- More ticks are never fewer nanoseconds. -/
theorem ticksToNanos_le_ticksToNanos (r : Ratio) {t u : UInt64} (h : t ≤ u) :
    r.ticksToNanos t ≤ r.ticksToNanos u := by
  rw [UInt64.le_iff_toNat_le, toNat_ticksToNanos, toNat_ticksToNanos]
  exact min_le_min_right _ (Nat.div_le_div_right (Nat.mul_le_mul_right _ h))

/-! ## From nanoseconds to ticks -/

/-- The way back is the floor of the exact quotient, saturated. -/
theorem toNat_nanosToTicks (r : Ratio) (nanos : UInt64) :
    (r.nanosToTicks nanos).toNat =
      min (nanos.toNat * r.scale.denom.toNat / r.scale.numer.toNat) 0xffffffffffffffff := by
  rw [nanosToTicks]
  split
  · -- with equal terms the quotient is exact
    rename_i h
    have hnanos := nanos.toNat_lt
    have hterms : r.scale.numer = r.scale.denom := by simpa [Scale.isIdentity] using h
    rw [hterms, Nat.mul_div_cancel _ r.denom_pos]
    omega
  · exact toNat_ofNatClamp _

/-- The magnitude that the signed way back gives a number of nanoseconds. -/
def magnitudeTicks (r : Ratio) (nanos : ℤ) : ℕ :=
  min (min nanos.natAbs 0xffffffffffffffff * r.scale.denom.toNat / r.scale.numer.toNat)
    0x7fffffffffffffff

/-- The signed way back gives the magnitude the sign of the nanoseconds. -/
theorem toInt_signedNanosToTicks (r : Ratio) (nanos : ℤ) :
    (r.signedNanosToTicks nanos).toInt =
      if nanos < 0 then -(r.magnitudeTicks nanos : ℤ) else r.magnitudeTicks nanos := by
  have hmagnitude : (Int64.ofIntClamp
      (r.nanosToTicks (.ofNatClamp nanos.natAbs)).toNat).toInt = r.magnitudeTicks nanos := by
    rw [toInt_ofIntClamp, toNat_nanosToTicks, toNat_ofNatClamp, magnitudeTicks]
    generalize min nanos.natAbs 0xffffffffffffffff * r.scale.denom.toNat / r.scale.numer.toNat = k
    omega
  have hle : r.magnitudeTicks nanos ≤ 0x7fffffffffffffff := min_le_right _ _
  rw [signedNanosToTicks]
  split
  · -- the largest magnitude is that of a positive word, so negation does not wrap
    rw [Int64.toInt_neg, hmagnitude, Int.bmod_eq_of_le] <;> omega
  · exact hmagnitude

/-- In range the signed way back is the division that rounds toward zero. -/
theorem toInt_signedNanosToTicks_eq_tdiv (r : Ratio) {nanos : ℤ}
    (hnanos : nanos.natAbs < 0x10000000000000000)
    (hticks : nanos.natAbs * r.scale.denom.toNat < 0x8000000000000000 * r.scale.numer.toNat) :
    (r.signedNanosToTicks nanos).toInt =
      (nanos * r.scale.denom.toNat).tdiv r.scale.numer.toNat := by
  have hmagnitude : r.magnitudeTicks nanos =
      nanos.natAbs * r.scale.denom.toNat / r.scale.numer.toNat := by
    have hlt := (Nat.div_lt_iff_lt_mul r.numer_pos).mpr hticks
    rw [magnitudeTicks, min_eq_left (Nat.le_of_lt_succ hnanos)]
    exact min_eq_left (Nat.le_of_lt_succ hlt)
  have hquotient : ((nanos.natAbs * r.scale.denom.toNat / r.scale.numer.toNat : ℕ) : ℤ) =
      (nanos.natAbs * r.scale.denom.toNat : ℤ).tdiv r.scale.numer.toNat := by
    rw [Int.natCast_ediv, Int.natCast_mul, Int.tdiv_eq_ediv_of_nonneg]
    exact Int.natCast_nonneg (nanos.natAbs * r.scale.denom.toNat)
  rw [toInt_signedNanosToTicks, hmagnitude, hquotient]
  split
  · -- a negative number is divided by its magnitude
    have habs : (nanos.natAbs : ℤ) = -nanos := by omega
    rw [habs, Int.neg_mul, Int.neg_tdiv, Int.neg_neg]
  · have habs : (nanos.natAbs : ℤ) = nanos := by omega
    rw [habs]

end SoftClock.Ratio
