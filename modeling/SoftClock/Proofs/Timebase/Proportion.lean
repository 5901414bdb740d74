import SoftClock.Proofs.Timebase.Resolution

/-!
# Scales of One Ratio

A scale need not be in lowest terms: a 24 MHz counter may report a tick of 1000000000/24000000
nanoseconds or one of 125/3. Nothing that is computed from a scale tells the two apart.

* `mul_div_eq_of_cross` and `ceilDiv_eq_of_cross`: quotients that are equal as fractions are equal
  when they are rounded, in either direction;
* `Scale.SameRatio` compares two scales as fractions; such scales have the same multiplier and
  headroom (`Scale.SameRatio.fixedPoint?_eq`) and the same frequency;
* `Converter.agrees_of_sameRatio`: their converters agree on every input;
* `Converter.ofScale_multiple` states this for a scale and its multiples.
-/

namespace SoftClock

/-! ## Quotients of equal fractions -/

/-- Multiples of equal fractions have the same quotient. -/
theorem mul_div_eq_of_cross (x : ℕ) {a b c d : ℕ} (hb : 0 < b) (hd : 0 < d)
    (hcross : a * d = c * b) : x * a / b = x * c / d := by
  calc x * a / b = x * a * d / (b * d) := (Nat.mul_div_mul_right _ _ hd).symm
    _ = x * c * b / (d * b) := by rw [Nat.mul_assoc, hcross, ← Nat.mul_assoc, Nat.mul_comm b d]
    _ = x * c / d := Nat.mul_div_mul_right _ _ hb

/-- Multiples of equal fractions have the same quotient when it is rounded up. -/
theorem ceilDiv_eq_of_cross (x : ℕ) {a b c d : ℕ} (hb : 0 < b) (hd : 0 < d)
    (hcross : a * d = c * b) : a * x ⌈/⌉ b = c * x ⌈/⌉ d := by
  -- both ceilings have the same upper bounds
  apply eq_of_forall_ge_iff
  intro bound
  rw [ceilDiv_le_iff_le_mul hb, ceilDiv_le_iff_le_mul hd]
  calc a * x ≤ b * bound ↔ d * (a * x) ≤ d * (b * bound) := (Nat.mul_le_mul_left_iff hd).symm
    _ ↔ b * (c * x) ≤ b * (d * bound) := by
      rw [show d * (a * x) = a * d * x by ring, hcross, show c * b * x = b * (c * x) by ring,
        Nat.mul_left_comm d b]
    _ ↔ c * x ≤ d * bound := Nat.mul_le_mul_left_iff hb

/-! ## Scales -/

namespace Scale

/-- Two usable scales are the same fraction. -/
structure SameRatio (s t : Scale) : Prop where
  numer_pos : 0 < s.numer.toNat
  denom_pos : 0 < s.denom.toNat
  numer_pos' : 0 < t.numer.toNat
  denom_pos' : 0 < t.denom.toNat
  cross : s.numer.toNat * t.denom.toNat = t.numer.toNat * s.denom.toNat

namespace SameRatio

variable {s t : Scale} (h : s.SameRatio t)

include h

/-- The inverse fractions are the same as well. -/
theorem cross_inverse : s.denom.toNat * t.numer.toNat = t.denom.toNat * s.numer.toNat := by
  rw [Nat.mul_comm, ← h.cross, Nat.mul_comm]

/-- Ticks are nanoseconds by both scales or by neither. -/
theorem isIdentity_eq : s.isIdentity = t.isIdentity := by
  have hterms (u : Scale) : u.isIdentity = true ↔ u.numer.toNat = u.denom.toNat := by
    rw [isIdentity, beq_iff_eq, ← UInt32.toNat_inj]
  rw [Bool.eq_iff_iff, hterms, hterms]
  have hcross := h.cross
  constructor
  · intro heq
    rw [heq, Nat.mul_comm] at hcross
    exact (Nat.eq_of_mul_eq_mul_right h.denom_pos hcross).symm
  · intro heq
    rw [heq, Nat.mul_comm t.denom.toNat] at hcross
    exact Nat.eq_of_mul_eq_mul_right h.denom_pos' hcross

theorem isUsable_eq : s.isUsable = t.isUsable := by
  have husable {u : Scale} (hnumer : 0 < u.numer.toNat) (hdenom : 0 < u.denom.toNat) :
      u.isUsable = true := by
    rw [isUsable, Bool.and_eq_true, bne_iff_ne, bne_iff_ne]
    exact ⟨UInt32.pos_iff_ne_zero.mp hnumer, UInt32.pos_iff_ne_zero.mp hdenom⟩
  rw [husable h.numer_pos h.denom_pos, husable h.numer_pos' h.denom_pos']

theorem scaledMultiplier_eq (extra : ℕ) : s.scaledMultiplier extra = t.scaledMultiplier extra := by
  rw [scaledMultiplier_eq_ceilDiv h.denom_pos, scaledMultiplier_eq_ceilDiv h.denom_pos']
  exact ceilDiv_eq_of_cross _ h.denom_pos h.denom_pos' h.cross

/-- The search for headroom compares multipliers only, and takes the short way for both scales or
for neither. -/
theorem fixedPoint?_eq : s.fixedPoint? = t.fixedPoint? := by
  simp only [fixedPoint?, headroom?, h.isUsable_eq, h.isIdentity_eq, h.scaledMultiplier_eq]

theorem frequency_eq : s.frequency = t.frequency := by
  rw [frequency, frequency,
    mul_div_eq_of_cross _ h.numer_pos h.numer_pos' h.cross_inverse]

end SameRatio

end Scale

/-! ## Converters -/

namespace Ratio

variable {r r' : Ratio} (h : r.scale.SameRatio r'.scale)

include h

theorem fixedPoint_eq : r.multiplier = r'.multiplier ∧ r.extraBits = r'.extraBits := by
  have hderived := r.isDerived
  rw [h.fixedPoint?_eq, r'.isDerived, Option.some.injEq, Prod.mk.injEq] at hderived
  exact ⟨hderived.1.symm, hderived.2.symm⟩

theorem nanosToTicks_eq (nanos : UInt64) : r.nanosToTicks nanos = r'.nanosToTicks nanos := by
  rw [← UInt64.toNat_inj, toNat_nanosToTicks, toNat_nanosToTicks,
    mul_div_eq_of_cross _ h.numer_pos h.numer_pos' h.cross_inverse]

end Ratio

namespace Converter

/-- Two converters have the same fixed-point numbers and agree on every input. -/
structure Agrees (converter other : Converter) : Prop where
  multiplier : converter.multiplier = other.multiplier
  extraBits : converter.extraBits = other.extraBits
  ticksToNanos : ∀ ticks, converter.ticksToNanos ticks = other.ticksToNanos ticks
  nanosToTicks : ∀ nanos, converter.nanosToTicks nanos = other.nanosToTicks nanos
  signedNanosToTicks : ∀ nanos,
    converter.signedNanosToTicks nanos = other.signedNanosToTicks nanos
  resolution : converter.resolution = other.resolution

/-- Converters of scales that are the same fraction agree on every input. -/
theorem agrees_of_sameRatio {r r' : Ratio} (h : r.scale.SameRatio r'.scale) :
    (calibrated r).Agrees (calibrated r') := by
  obtain ⟨hmultiplier, hextra⟩ := Ratio.fixedPoint_eq h
  refine ⟨hmultiplier, hextra, fun ticks => ?_, Ratio.nanosToTicks_eq h, fun nanos => ?_, ?_⟩
  · rw [← UInt64.toNat_inj, toNat_ticksToNanos, toNat_ticksToNanos]
    simp only [multiplier, extraBits, hmultiplier, hextra]
  · -- the magnitude is all that depends on the scale
    simp only [signedNanosToTicks, Ratio.signedNanosToTicks, Ratio.nanosToTicks_eq h]
  · rw [← UInt64.toNat_inj]
    simp only [resolution, Ratio.toNat_resolution_eq_ceilDiv, hmultiplier, hextra]

end Converter

/-! ## Multiples of a scale -/

namespace Scale

/-- Both terms multiplied by the same number. -/
def multiple (s : Scale) (k : ℕ) : Scale := ⟨.ofNat (k * s.numer.toNat), .ofNat (k * s.denom.toNat)⟩

/-- A scale and its multiples are the same fraction, as long as the terms fit their words. -/
theorem sameRatio_multiple {s : Scale} {k : ℕ} (hk : 1 ≤ k) (hnumer : s.numer ≠ 0)
    (hdenom : s.denom ≠ 0) (hfits : k * s.numer.toNat < 0x100000000)
    (hfits' : k * s.denom.toNat < 0x100000000) : s.SameRatio (s.multiple k) := by
  have hn : (s.multiple k).numer.toNat = k * s.numer.toNat := UInt32.toNat_ofNat_of_lt hfits
  have hd : (s.multiple k).denom.toNat = k * s.denom.toNat := UInt32.toNat_ofNat_of_lt hfits'
  have hnumer_pos : 0 < s.numer.toNat := UInt32.pos_iff_ne_zero.mpr hnumer
  have hdenom_pos : 0 < s.denom.toNat := UInt32.pos_iff_ne_zero.mpr hdenom
  refine ⟨hnumer_pos, hdenom_pos, ?_, ?_, ?_⟩
  · rw [hn]
    exact Nat.mul_pos hk hnumer_pos
  · rw [hd]
    exact Nat.mul_pos hk hdenom_pos
  · rw [hn, hd]
    ring

end Scale

namespace Converter

/-- Only the ratio of a scale matters. A usable scale and a multiple of it whose terms still fit
their words have converters with the same fixed-point numbers that agree on every input, and the
same frequency. -/
theorem ofScale_multiple (scale : Scale) (k : ℕ) (hk : 1 ≤ k) (hnumer : scale.numer ≠ 0)
    (hdenom : scale.denom ≠ 0) (hfits : k * scale.numer.toNat < 0x100000000)
    (hfits' : k * scale.denom.toNat < 0x100000000) :
    ∃ converter other, ofScale scale = .ok converter ∧ ofScale (scale.multiple k) = .ok other ∧
      converter.Agrees other ∧ scale.frequency = (scale.multiple k).frequency := by
  have hratio := Scale.sameRatio_multiple hk hnumer hdenom hfits hfits'
  obtain ⟨r, hscale, hconverter⟩ := Ratio.exists_converter hnumer hdenom
  obtain ⟨r', hscale', hother⟩ := Ratio.exists_converter
    (UInt32.pos_iff_ne_zero.mp hratio.numer_pos') (UInt32.pos_iff_ne_zero.mp hratio.denom_pos')
  refine ⟨.calibrated r, .calibrated r', hconverter, hother, agrees_of_sameRatio ?_,
    hratio.frequency_eq⟩
  rw [hscale, hscale']
  exact hratio

/-- A tick of 125/3 nanoseconds is that of a 24 MHz counter, whose terms are eight million times as
large. -/
theorem lowestTerms_multiple :
    Scale.multiple ⟨125, 3⟩ 8000000 = .megahertz24 ∧ 8000000 * 125 < 0x100000000 ∧
      8000000 * 3 < 0x100000000 ∧
      ∃ converter, ofScale ⟨125, 3⟩ = .ok converter ∧
        converter.multiplier = 12009599006321322667 ∧ converter.extraBits = 26 ∧
        (∀ ticks, converter.ticksToNanos ticks = (calibrated .megahertz24).ticksToNanos ticks) ∧
        Scale.frequency ⟨125, 3⟩ = 24000000 := by
  have hmultiple : Scale.multiple ⟨125, 3⟩ 8000000 = .megahertz24 := by decide
  have hfits : 8000000 * 125 < 0x100000000 := by decide
  have hfits' : 8000000 * 3 < 0x100000000 := by decide
  obtain ⟨converter, other, hconverter, hother, hagrees, hfrequency⟩ :=
    ofScale_multiple ⟨125, 3⟩ 8000000 (by decide) (by decide) (by decide) hfits hfits'
  rw [hmultiple] at hother hfrequency
  obtain rfl : .calibrated .megahertz24 = other := Ratio.calibrated_eq hother
  exact ⟨hmultiple, hfits, hfits', converter, hconverter, hagrees.multiplier, hagrees.extraBits,
    hagrees.ticksToNanos, hfrequency.trans (by decide)⟩

end Converter

end SoftClock
