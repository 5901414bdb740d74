import SoftClock.Proofs.Timebase.Resolution
import Mathlib.Order.Bounds.Defs

/-!
# Calibration and Headroom

Which scales have a converter, and how precise its multiplier is.

* `Converter.ofScale_eq_error_iff`: a scale has no converter exactly if one of its terms is zero,
  and the failure says so. No ratio of two words of 32 bits is out of range.
* `Scale.headrooms` are the counts of extra bits with which the rounded-up multiplier fits a word.
  A converter has the largest of them (`Ratio.isGreatest_extraBits`), so its multiplier is not zero
  (`Ratio.multiplier_ne_zero`) and has its top bit set unless the search stops at 31 bits.
* `Converter.ofScale_mostPrecise` puts this together for every scale.
-/

namespace SoftClock

/-- The counts of at most 31 extra bits with which the rounded-up multiplier fits a word. -/
def Scale.headrooms (s : Scale) : Set ℕ :=
  {extra | extra ≤ 31 ∧ s.numer.toNat * 2 ^ (32 + extra) ⌈/⌉ s.denom.toNat < 0x10000000000000000}

namespace Ratio

variable (r : Ratio)

/-- The multiplier is the scaled ratio, rounded up. -/
theorem toNat_multiplier_eq_ceilDiv : r.multiplier.toNat =
    r.scale.numer.toNat * 2 ^ (32 + r.extraBits) ⌈/⌉ r.scale.denom.toNat := by
  rw [toNat_multiplier, Scale.scaledMultiplier_eq_ceilDiv r.denom_pos]

/-- The search for headroom finds the largest one. -/
theorem isGreatest_extraBits (hidentity : ¬ r.scale.isIdentity = true) :
    IsGreatest r.scale.headrooms r.extraBits := by
  obtain ⟨hextra, -, hlarger⟩ := Scale.headroom?_largest (r.headroom_of_not_isIdentity hidentity)
  refine ⟨⟨hextra, ?_⟩, fun more hmore => ?_⟩
  · rw [← toNat_multiplier_eq_ceilDiv]
    exact r.multiplier.toNat_lt
  · obtain ⟨hle, hfits⟩ := hmore
    rw [← Scale.scaledMultiplier_eq_ceilDiv r.denom_pos] at hfits
    -- more headroom than was found does not fit
    by_contra hlt
    exact Nat.not_lt_of_ge (hlarger more (Nat.lt_of_not_ge hlt) hle) hfits

/-- Rounding up leaves no multiplier at zero. -/
theorem multiplier_ne_zero : r.multiplier ≠ 0 := by
  have hscaled : 0 < r.scale.numer.toNat * 2 ^ (32 + r.extraBits) :=
    Nat.mul_pos r.numer_pos (Nat.two_pow_pos _)
  intro hzero
  have hlow := r.le_multiplier_mul
  rw [hzero, UInt64.toNat_zero, Nat.zero_mul] at hlow
  exact Nat.not_lt_of_ge hlow hscaled

end Ratio

namespace Converter

/-- What calibration reports about a scale with a zero term. -/
def zeroTermError (scale : Scale) : ClockError :=
  .calibration ("timebase " ++ scale.label ++ " has a zero term")

/-- What calibration reports about a scale whose multiplier does not fit. -/
def outOfRangeError (scale : Scale) : ClockError :=
  .calibration ("timebase " ++ scale.label ++ " exceeds the fixed-point range")

theorem zeroTermError_ne_outOfRangeError (scale : Scale) :
    zeroTermError scale ≠ outOfRangeError scale := by
  intro h
  have htexts := ClockError.calibration.inj h
  rw [String.append_right_inj] at htexts
  exact absurd htexts (by decide)

/-- A scale has no converter exactly if a term is zero, and the failure says so. -/
theorem ofScale_eq_error_iff {scale : Scale} {e : ClockError} :
    ofScale scale = .error e ↔
      (scale.numer = 0 ∨ scale.denom = 0) ∧ e = zeroTermError scale := by
  by_cases hterms : scale.numer ≠ 0 ∧ scale.denom ≠ 0
  · -- both terms can be divided by, so there is a converter
    obtain ⟨r, -, hconverter⟩ := Ratio.exists_converter hterms.1 hterms.2
    rw [hconverter]
    refine ⟨fun h => (by cases h), ?_⟩
    rintro ⟨hzero, -⟩
    rcases hzero with hzero | hzero
    · exact absurd hzero hterms.1
    · exact absurd hzero hterms.2
  · have hunusable : ¬ scale.isUsable = true := by
      simpa [Scale.isUsable] using hterms
    have hnone : scale.fixedPoint? = none := by rw [Scale.fixedPoint?, if_neg hunusable]
    have hzero : scale.numer = 0 ∨ scale.denom = 0 := by
      rw [not_and_or, not_not, not_not] at hterms
      exact hterms
    have herror : ofScale scale = .error (zeroTermError scale) := by
      rw [ofScale, Ratio.ofScale]
      split
      · rename_i hsome
        rw [hnone] at hsome
        cases hsome
      · rw [if_neg hunusable]
        rfl
    rw [herror, Except.error.injEq]
    constructor
    · rintro rfl
      exact ⟨hzero, rfl⟩
    · rintro ⟨-, rfl⟩
      rfl

/-- The numbers of a converter are the most precise ones for a scale. -/
structure IsMostPrecise (converter : Converter) (scale : Scale) : Prop where
  isOf : converter.scale? = some scale
  /-- Where ticks are nanoseconds, the multiplier is one, without headroom. -/
  identity : scale.numer = scale.denom →
    converter.multiplier = 0x100000000 ∧ converter.extraBits = 0
  /-- The multiplier is the scaled ratio, rounded up. -/
  multiplier : scale.numer ≠ scale.denom → converter.multiplier.toNat =
    scale.numer.toNat * 2 ^ (32 + converter.extraBits) ⌈/⌉ scale.denom.toNat
  headroom : scale.numer ≠ scale.denom → IsGreatest scale.headrooms converter.extraBits
  multiplier_ne_zero : converter.multiplier ≠ 0
  /-- With less than the largest headroom no bit is left unused. -/
  topBit : scale.numer ≠ scale.denom → converter.extraBits < 31 →
    0x8000000000000000 ≤ converter.multiplier.toNat

/-- The converter of a ratio is the most precise one for its scale. -/
theorem isMostPrecise_calibrated (r : Ratio) : (calibrated r).IsMostPrecise r.scale := by
  have hidentity : r.scale.isIdentity = true ↔ r.scale.numer = r.scale.denom := by
    simp [Scale.isIdentity]
  exact
    { isOf := rfl
      identity := fun heq => r.fixedPoint_of_isIdentity (hidentity.mpr heq)
      multiplier := fun _ => r.toNat_multiplier_eq_ceilDiv
      headroom := fun hne => r.isGreatest_extraBits (mt hidentity.mp hne)
      multiplier_ne_zero := r.multiplier_ne_zero
      topBit := fun hne hextra => Ratio.le_multiplier_of_extraBits_lt (mt hidentity.mp hne) hextra }

/-- Calibration fails exactly for the scales with a zero term, and never because a scale is out of
range. Every other scale gets the multiplier with the largest headroom. -/
theorem ofScale_mostPrecise (scale : Scale) :
    ((∃ e, ofScale scale = .error e) ↔ scale.numer = 0 ∨ scale.denom = 0) ∧
      (∀ e, ofScale scale = .error e → e = zeroTermError scale) ∧
      ofScale scale ≠ .error (outOfRangeError scale) ∧
      ∀ converter, ofScale scale = .ok converter → converter.IsMostPrecise scale := by
  refine ⟨⟨?_, fun hzero => ?_⟩, fun e herror => ?_, fun herror => ?_, fun converter hok => ?_⟩
  · rintro ⟨e, herror⟩
    exact (ofScale_eq_error_iff.mp herror).1
  · exact ⟨_, ofScale_eq_error_iff.mpr ⟨hzero, rfl⟩⟩
  · exact (ofScale_eq_error_iff.mp herror).2
  · exact zeroTermError_ne_outOfRangeError scale (ofScale_eq_error_iff.mp herror).2.symm
  · have hterms : scale.numer ≠ 0 ∧ scale.denom ≠ 0 := by
      by_contra hzero
      rw [not_and_or, not_not, not_not] at hzero
      rw [ofScale_eq_error_iff.mpr ⟨hzero, rfl⟩] at hok
      cases hok
    obtain ⟨r, rfl, hconverter⟩ := Ratio.exists_converter hterms.1 hterms.2
    obtain rfl : .calibrated r = converter := Except.ok.inj (hconverter.symm.trans hok)
    exact isMostPrecise_calibrated r

/-- A counter without a known frequency has no converter. A 24 MHz counter has one with 26 extra
bits, since a 27th would take its multiplier beyond a word. -/
theorem megahertz24_mostPrecise :
    ofScale ⟨1000000000, 0⟩ = .error (zeroTermError ⟨1000000000, 0⟩) ∧
      ofScale .megahertz24 = .ok (.calibrated .megahertz24) ∧
      IsGreatest Scale.megahertz24.headrooms 26 ∧
      12009599006321322667 = 1000000000 * 2 ^ (32 + 26) ⌈/⌉ 24000000 ∧
      0x8000000000000000 ≤ 12009599006321322667 := by
  obtain ⟨hfails, hcause, -, -⟩ := ofScale_mostPrecise ⟨1000000000, 0⟩
  obtain ⟨e, herror⟩ := hfails.mpr (.inr rfl)
  have hconverter := Ratio.megahertz24.converter_ofScale_scale
  have hprecise := (ofScale_mostPrecise .megahertz24).2.2.2 _ hconverter
  have hterms : Scale.megahertz24.numer ≠ Scale.megahertz24.denom := by decide
  exact ⟨hcause e herror ▸ herror, hconverter, hprecise.headroom hterms,
    hprecise.multiplier hterms, hprecise.topBit hterms (by decide)⟩

end Converter

end SoftClock
