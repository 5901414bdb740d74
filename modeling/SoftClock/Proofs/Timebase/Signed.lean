import SoftClock.Proofs.Timebase.Conversion

/-!
# The Signed Way Back

Spans of wall time have a sign, and so have the ticks they are converted to. The magnitude is
converted as an unsigned number, which saturates twice, and the sign is put on at the end.

* `Converter.magnitudeWord` is the word that gets the sign. It is never negative, so its negation
  does not overflow (`Converter.toInt_neg_magnitudeWord`), and a larger magnitude never makes it
  smaller (`Converter.magnitudeWord_le`);
* `Converter.signedNanosToTicks_oddMonotone` puts this together: both signs are treated alike, order
  is kept, and within 64 bits the result is the exact quotient, rounded toward zero and saturated.
-/

namespace SoftClock.Converter

/-- The converter of a scale holds the ratio of that scale. -/
theorem exists_ratio_of_ofScale {scale : Scale} {converter : Converter}
    (h : ofScale scale = .ok converter) :
    ∃ r : Ratio, r.scale = scale ∧ converter = .calibrated r := by
  cases hratio : Ratio.ofScale scale with
  | error error =>
    rw [ofScale, hratio] at h
    cases h
  | ok r =>
    rw [ofScale, hratio] at h
    cases h
    exact ⟨r, Ratio.scale_of_ofScale hratio, rfl⟩

variable (converter : Converter)

/-! ## The magnitude -/

/-- More nanoseconds are never fewer ticks. -/
theorem nanosToTicks_le_nanosToTicks {nanos more : UInt64} (h : nanos ≤ more) :
    converter.nanosToTicks nanos ≤ converter.nanosToTicks more := by
  cases converter with
  | degraded => exact UInt64.le_refl 0
  | calibrated r =>
    rw [UInt64.le_iff_toNat_le, nanosToTicks, nanosToTicks, Ratio.toNat_nanosToTicks,
      Ratio.toNat_nanosToTicks]
    exact min_le_min_right _ (Nat.div_le_div_right (Nat.mul_le_mul_right _ h))

/-- The ticks of a magnitude, saturated to a signed word, before they get a sign. -/
def magnitudeWord (nanos : ℤ) : Int64 :=
  .ofIntClamp (converter.nanosToTicks (.ofNatClamp nanos.natAbs)).toNat

/-- The sign of the nanoseconds is put on the magnitude. -/
theorem signedNanosToTicks_eq (nanos : ℤ) :
    converter.signedNanosToTicks nanos =
      if nanos < 0 then -converter.magnitudeWord nanos else converter.magnitudeWord nanos := by
  cases converter with
  | degraded =>
    have hzero : Converter.degraded.magnitudeWord nanos = 0 := rfl
    rw [hzero, Int64.neg_zero, ite_self]
    rfl
  | calibrated r => rfl

theorem toInt_magnitudeWord (nanos : ℤ) :
    (converter.magnitudeWord nanos).toInt =
      min (converter.nanosToTicks (.ofNatClamp nanos.natAbs)).toNat 0x7fffffffffffffff := by
  rw [magnitudeWord, toInt_ofIntClamp]
  omega

/-- The magnitude stays away from the lowest signed word, whose negation would overflow. -/
theorem magnitudeWord_mem_range (nanos : ℤ) :
    0 ≤ (converter.magnitudeWord nanos).toInt ∧
      (converter.magnitudeWord nanos).toInt ≤ 0x7fffffffffffffff := by
  rw [toInt_magnitudeWord]
  omega

theorem toInt_neg_magnitudeWord (nanos : ℤ) :
    (-converter.magnitudeWord nanos).toInt = -(converter.magnitudeWord nanos).toInt := by
  have hrange := converter.magnitudeWord_mem_range nanos
  rw [Int64.toInt_neg, Int.bmod_eq_of_le] <;> omega

/-- A larger magnitude of nanoseconds is never fewer ticks, before and after both saturations. -/
theorem magnitudeWord_le {a b : ℤ} (h : a.natAbs ≤ b.natAbs) :
    (converter.magnitudeWord a).toInt ≤ (converter.magnitudeWord b).toInt := by
  have hclamped : UInt64.ofNatClamp a.natAbs ≤ .ofNatClamp b.natAbs := by
    rw [UInt64.le_iff_toNat_le, toNat_ofNatClamp, toNat_ofNatClamp]
    omega
  have hticks := UInt64.le_iff_toNat_le.mp (converter.nanosToTicks_le_nanosToTicks hclamped)
  rw [toInt_magnitudeWord, toInt_magnitudeWord]
  omega

theorem magnitudeWord_neg (nanos : ℤ) :
    converter.magnitudeWord (-nanos) = converter.magnitudeWord nanos := by
  rw [magnitudeWord, Int.natAbs_neg, magnitudeWord]

theorem magnitudeWord_zero : converter.magnitudeWord 0 = 0 := by
  cases converter with
  | degraded => rfl
  | calibrated r =>
    have hzero : r.nanosToTicks (.ofNatClamp 0) = 0 := by
      rw [← UInt64.toNat_inj, Ratio.toNat_nanosToTicks, toNat_ofNatClamp, Nat.zero_min,
        Nat.zero_mul, Nat.zero_div]
      rfl
    show Int64.ofIntClamp (r.nanosToTicks (.ofNatClamp 0)).toNat = 0
    rw [hzero]
    rfl

/-! ## The sign -/

theorem toInt_signedNanosToTicks (nanos : ℤ) :
    (converter.signedNanosToTicks nanos).toInt =
      if nanos < 0 then -(converter.magnitudeWord nanos).toInt
      else (converter.magnitudeWord nanos).toInt := by
  rw [signedNanosToTicks_eq]
  split
  · exact converter.toInt_neg_magnitudeWord nanos
  · rfl

/-- More nanoseconds are never fewer ticks, on either side of zero and across it. -/
theorem signedNanosToTicks_le_signedNanosToTicks {a b : ℤ} (h : a ≤ b) :
    converter.signedNanosToTicks a ≤ converter.signedNanosToTicks b := by
  have ha := converter.magnitudeWord_mem_range a
  have hb := converter.magnitudeWord_mem_range b
  rw [Int64.le_iff_toInt_le, toInt_signedNanosToTicks, toInt_signedNanosToTicks]
  by_cases hneg : b < 0
  · -- of two negative numbers the smaller one has the larger magnitude
    have hle : (converter.magnitudeWord b).toInt ≤ (converter.magnitudeWord a).toInt :=
      converter.magnitudeWord_le (by omega)
    rw [if_pos (by omega), if_pos hneg]
    omega
  · rw [if_neg hneg]
    split
    · omega
    · exact converter.magnitudeWord_le (by omega)

/-- The opposite number of nanoseconds is the opposite number of ticks. -/
theorem signedNanosToTicks_neg (nanos : ℤ) :
    converter.signedNanosToTicks (-nanos) = -converter.signedNanosToTicks nanos := by
  rw [signedNanosToTicks_eq, signedNanosToTicks_eq, magnitudeWord_neg]
  rcases Int.lt_trichotomy nanos 0 with hneg | rfl | hpos
  · rw [if_neg (by omega), if_pos hneg, Int64.neg_neg]
  · -- zero has no sign to lose
    rw [magnitudeWord_zero]
    rfl
  · rw [if_pos (by omega), if_neg (by omega)]

/-- Within 64 bits the result is the exact quotient of the magnitude, rounded down and saturated,
with the sign of the nanoseconds. -/
theorem toInt_signedNanosToTicks_eq_sign_mul (r : Ratio) {nanos : ℤ}
    (hnanos : nanos.natAbs < 0x10000000000000000) :
    ((calibrated r).signedNanosToTicks nanos).toInt =
      nanos.sign * min 0x7fffffffffffffff
        (nanos.natAbs * r.scale.denom.toNat / r.scale.numer.toNat : ℕ) := by
  have hword : ((calibrated r).magnitudeWord nanos).toInt =
      min 0x7fffffffffffffff (nanos.natAbs * r.scale.denom.toNat / r.scale.numer.toNat : ℕ) := by
    rw [toInt_magnitudeWord, nanosToTicks, Ratio.toNat_nanosToTicks, toNat_ofNatClamp,
      min_eq_left (Nat.le_of_lt_succ hnanos)]
    omega
  rw [toInt_signedNanosToTicks, hword]
  rcases Int.lt_trichotomy nanos 0 with hneg | rfl | hpos
  · rw [if_pos hneg, Int.sign_eq_neg_one_of_neg hneg, Int.neg_one_mul]
  · simp
  · rw [if_neg (by omega), Int.sign_eq_one_of_pos hpos, Int.one_mul]

/-- The signed way back of every converter keeps order and treats both signs alike, for whole
numbers of any width. What it negates is never the lowest word, so every result lies between the
largest word and its opposite. With a timebase, nanoseconds of less than 64 bits become the exact
quotient, rounded toward zero and saturated. -/
theorem signedNanosToTicks_oddMonotone :
    (∀ a b : ℤ, a ≤ b → converter.signedNanosToTicks a ≤ converter.signedNanosToTicks b) ∧
      (∀ a : ℤ, converter.signedNanosToTicks (-a) = -converter.signedNanosToTicks a) ∧
      (∀ a : ℤ,
        converter.signedNanosToTicks a =
            (if a < 0 then -converter.magnitudeWord a else converter.magnitudeWord a) ∧
          (-converter.magnitudeWord a).toInt = -(converter.magnitudeWord a).toInt ∧
          -0x7fffffffffffffff ≤ (converter.signedNanosToTicks a).toInt ∧
          (converter.signedNanosToTicks a).toInt ≤ 0x7fffffffffffffff) ∧
      ∀ scale, ofScale scale = .ok converter → ∀ a : ℤ, a.natAbs < 0x10000000000000000 →
        (converter.signedNanosToTicks a).toInt =
          a.sign * min 0x7fffffffffffffff
            (a.natAbs * scale.denom.toNat / scale.numer.toNat : ℕ) := by
  refine ⟨fun a b => converter.signedNanosToTicks_le_signedNanosToTicks,
    converter.signedNanosToTicks_neg, fun a => ?_, ?_⟩
  · have hrange := converter.magnitudeWord_mem_range a
    refine ⟨converter.signedNanosToTicks_eq a, converter.toInt_neg_magnitudeWord a, ?_⟩
    rw [toInt_signedNanosToTicks]
    split <;> omega
  · intro scale hscale a ha
    obtain ⟨r, rfl, rfl⟩ := exists_ratio_of_ofScale hscale
    exact toInt_signedNanosToTicks_eq_sign_mul r ha

/-- With a 24 MHz counter the lowest 128-bit number saturates on the negative side, below the 24
ticks of a microsecond before zero, and its opposite saturates on the positive side. -/
theorem megahertz24_oddMonotone :
    (-0x80000000000000000000000000000000 : ℤ) ≤ -1000 ∧
      (calibrated .megahertz24).signedNanosToTicks (-0x80000000000000000000000000000000) ≤
        (calibrated .megahertz24).signedNanosToTicks (-1000) ∧
      (calibrated .megahertz24).signedNanosToTicks 0x80000000000000000000000000000000 =
        -(calibrated .megahertz24).signedNanosToTicks (-0x80000000000000000000000000000000) ∧
      -0x7fffffffffffffff ≤ ((calibrated .megahertz24).signedNanosToTicks
        (-0x80000000000000000000000000000000)).toInt ∧
      ofScale .megahertz24 = .ok (.calibrated .megahertz24) ∧
      (-1000 : ℤ).natAbs < 0x10000000000000000 ∧
      ((calibrated .megahertz24).signedNanosToTicks (-1000)).toInt = -24 := by
  obtain ⟨hmono, hodd, hrange, hexact⟩ := signedNanosToTicks_oddMonotone (.calibrated .megahertz24)
  have hle : (-0x80000000000000000000000000000000 : ℤ) ≤ -1000 := by decide
  have hscale : ofScale .megahertz24 = .ok (.calibrated .megahertz24) :=
    Ratio.megahertz24.converter_ofScale_scale
  have hfits : (-1000 : ℤ).natAbs < 0x10000000000000000 := by decide
  have hopposite := hodd (-0x80000000000000000000000000000000)
  rw [Int.neg_neg] at hopposite
  exact ⟨hle, hmono _ _ hle, hopposite, (hrange _).2.2.1, hscale, hfits,
    hexact .megahertz24 hscale (-1000) hfits⟩

end SoftClock.Converter
