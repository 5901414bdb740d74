import Mathlib.Order.Lattice
import Mathlib.Order.MinMax

/-!
# Clamped Conversions in Numeral Form

Machine words made by a clamped conversion, read back as numbers. The clamp is a minimum for
unsigned words and a minimum and a maximum for signed ones, so bounds on them are left to linear
arithmetic.
-/

namespace SoftClock

/-- A clamped unsigned word holds the number or the largest word. -/
theorem toNat_ofNatClamp (n : ℕ) : (UInt64.ofNatClamp n).toNat = min n 0xffffffffffffffff := by
  rcases Nat.lt_or_ge n UInt64.size with h | h
  · rw [UInt64.toNat_ofNatClamp_of_lt h, min_eq_left]
    exact Nat.le_pred_of_lt h
  · rw [UInt64.toNat_ofNatClamp_of_le h, min_eq_right]
    · rfl
    · exact le_trans (by decide) h

/-- A clamped signed word holds the number or the nearer end of the signed range. -/
theorem toInt_ofIntClamp (x : ℤ) :
    (Int64.ofIntClamp x).toInt = max (-0x8000000000000000) (min x 0x7fffffffffffffff) := by
  unfold Int64.ofIntClamp
  split
  · rename_i hlow
    change -0x8000000000000000 ≤ x at hlow
    split
    · rename_i hhigh
      change x ≤ 0x7fffffffffffffff at hhigh
      rw [Int64.toInt_ofIntLE]
      omega
    · rename_i hhigh
      change ¬ x ≤ 0x7fffffffffffffff at hhigh
      change (0x7fffffffffffffff : ℤ) = _
      omega
  · rename_i hlow
    change ¬ -0x8000000000000000 ≤ x at hlow
    change (-0x8000000000000000 : ℤ) = _
    omega

/-- A signed word lies in the signed range. -/
theorem toInt_mem_range (x : Int64) :
    -0x8000000000000000 ≤ x.toInt ∧ x.toInt ≤ 0x7fffffffffffffff :=
  ⟨x.minValue_le_toInt, x.toInt_le⟩

/-- A word without its top bit is the same number with a sign. -/
theorem toInt_toInt64 {word : UInt64} (hlt : word.toNat < 0x8000000000000000) :
    word.toInt64.toInt = word.toNat := by
  show word.toBitVec.toInt = _
  rw [BitVec.toInt_eq_toNat_of_lt]
  · rfl
  · show 2 * word.toNat < 2 ^ 64
    omega

/-- The larger of two unsigned words. -/
theorem toNat_max (a b : UInt64) : (max a b).toNat = max a.toNat b.toNat := by
  by_cases h : a ≤ b
  · rw [show max a b = b from if_pos h]
    exact (max_eq_right (UInt64.le_iff_toNat_le.mp h)).symm
  · rw [show max a b = a from if_neg h]
    exact (max_eq_left (UInt64.le_iff_toNat_le.mp (UInt64.le_of_lt (UInt64.not_le.mp h)))).symm

/-- The smaller of two unsigned words. -/
theorem toNat_min (a b : UInt64) : (min a b).toNat = min a.toNat b.toNat := by
  by_cases h : a ≤ b
  · rw [show min a b = a from if_pos h]
    exact (min_eq_left (UInt64.le_iff_toNat_le.mp h)).symm
  · rw [show min a b = b from if_neg h]
    exact (min_eq_right (UInt64.le_iff_toNat_le.mp (UInt64.le_of_lt (UInt64.not_le.mp h)))).symm

end SoftClock
