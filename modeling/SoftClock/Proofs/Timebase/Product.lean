import SoftClock.Proofs.Word.Arithmetic
import SoftClock.Timebase.WideProduct
import Mathlib.Tactic.Ring

/-!
# The Wide Product in Numeral Form

The two words of `WideWord.product` stand for the product of the factors. With the halves of the
factors as digits in base `2 ^ 32`, every intermediate sum of the schoolbook product fits a word.

* `toNat_product` is the product in numeral form, assembled from the lower and the upper word;
* `productWith` runs the same operations in any arithmetic of words. The result does not depend on
  what that arithmetic does on overflow (`productWith_eq_pure`), so checked arithmetic refuses
  nothing. `product_neverOverflows` states both.
-/

namespace SoftClock.WideWord

theorem toNat_lowHalf (a : UInt64) : (lowHalf a).toNat = a.toNat % 0x100000000 := by
  rw [lowHalf, UInt64.toNat_and]
  exact Nat.and_two_pow_sub_one_eq_mod a.toNat 32

theorem toNat_highHalf (a : UInt64) : (highHalf a).toNat = a.toNat / 0x100000000 := by
  rw [highHalf, UInt64.toNat_shiftRight, Nat.shiftRight_eq_div_pow]
  rfl

theorem toNat_lowHalf_lt (a : UInt64) : (lowHalf a).toNat < 0x100000000 := by
  rw [toNat_lowHalf]
  exact Nat.mod_lt _ (by decide)

theorem toNat_highHalf_lt (a : UInt64) : (highHalf a).toNat < 0x100000000 := by
  have := a.toNat_lt
  rw [toNat_highHalf]
  omega

/-- A word is its halves as digits. -/
theorem toNat_eq_halves (a : UInt64) :
    a.toNat = (highHalf a).toNat * 0x100000000 + (lowHalf a).toNat := by
  rw [toNat_highHalf, toNat_lowHalf]
  omega

/-- The product of two digits leaves room for two more digits in a word. -/
theorem mul_digits_le {x y : ℕ} (hx : x < 0x100000000) (hy : y < 0x100000000) :
    x * y ≤ 0xfffffffe00000001 := by
  calc x * y ≤ 0xffffffff * 0xffffffff :=
        Nat.mul_le_mul (Nat.le_of_lt_succ hx) (Nat.le_of_lt_succ hy)
    _ = 0xfffffffe00000001 := by decide

/-- The product of two digits does not wrap around. -/
theorem toNat_mul_digits {x y : UInt64} (hx : x.toNat < 0x100000000) (hy : y.toNat < 0x100000000) :
    (x * y).toNat = x.toNat * y.toNat := by
  have := mul_digits_le hx hy
  rw [UInt64.toNat_mul]
  exact Nat.mod_eq_of_lt (by omega)

/-- The middle column is the sum of its three digits. -/
theorem toNat_middleColumn (a b : UInt64) :
    (middleColumn a b).toNat =
      (lowHalf a).toNat * (lowHalf b).toNat / 0x100000000 +
        (highHalf a).toNat * (lowHalf b).toNat % 0x100000000 +
        (lowHalf a).toNat * (highHalf b).toNat % 0x100000000 := by
  have hll := mul_digits_le (toNat_lowHalf_lt a) (toNat_lowHalf_lt b)
  have hcarry : ((lowHalf a * lowHalf b) >>> 32).toNat =
      (lowHalf a).toNat * (lowHalf b).toNat / 0x100000000 := by
    rw [← toNat_mul_digits (toNat_lowHalf_lt a) (toNat_lowHalf_lt b)]
    exact toNat_highHalf _
  rw [middleColumn, UInt64.toNat_add, UInt64.toNat_add, hcarry,
    toNat_lowHalf (highHalf a * lowHalf b), toNat_lowHalf (lowHalf a * highHalf b),
    toNat_mul_digits (toNat_highHalf_lt a) (toNat_lowHalf_lt b),
    toNat_mul_digits (toNat_lowHalf_lt a) (toNat_highHalf_lt b)]
  omega

/-- The middle column carries at most two. -/
theorem toNat_middleColumn_lt (a b : UInt64) : (middleColumn a b).toNat < 3 * 0x100000000 := by
  have hll := mul_digits_le (toNat_lowHalf_lt a) (toNat_lowHalf_lt b)
  rw [toNat_middleColumn]
  omega

/-- The lower word of a product. -/
theorem toNat_product_low (a b : UInt64) :
    (product a b).low.toNat =
      (middleColumn a b).toNat % 0x100000000 * 0x100000000 +
        (lowHalf a).toNat * (lowHalf b).toNat % 0x100000000 := by
  have hdigit := toNat_lowHalf_lt (lowHalf a * lowHalf b)
  rw [product, UInt64.toNat_or, UInt64.toNat_shiftLeft]
  change ((middleColumn a b).toNat <<< 32) % 2 ^ 64 ||| _ = _
  -- The shifted column has no bit below the digit.
  have hshift : ((middleColumn a b).toNat <<< 32) % 2 ^ 64 =
      ((middleColumn a b).toNat % 0x100000000) <<< 32 := by
    simp only [Nat.shiftLeft_eq]
    omega
  rw [hshift, ← Nat.shiftLeft_add_eq_or_of_lt hdigit, Nat.shiftLeft_eq, toNat_lowHalf,
    toNat_mul_digits (toNat_lowHalf_lt a) (toNat_lowHalf_lt b)]

/-- The four digits and products of the upper word fit a word together. -/
theorem highColumn_le (a b : UInt64) :
    (highHalf a * highHalf b).toNat + (highHalf (highHalf a * lowHalf b)).toNat +
        (highHalf (lowHalf a * highHalf b)).toNat + (highHalf (middleColumn a b)).toNat ≤
      0xffffffffffffffff := by
  have hhh := mul_digits_le (toNat_highHalf_lt a) (toNat_highHalf_lt b)
  have hhl := mul_digits_le (toNat_highHalf_lt a) (toNat_lowHalf_lt b)
  have hlh := mul_digits_le (toNat_lowHalf_lt a) (toNat_highHalf_lt b)
  have hmid := toNat_middleColumn_lt a b
  rw [toNat_highHalf, toNat_highHalf, toNat_highHalf,
    toNat_mul_digits (toNat_highHalf_lt a) (toNat_highHalf_lt b),
    toNat_mul_digits (toNat_highHalf_lt a) (toNat_lowHalf_lt b),
    toNat_mul_digits (toNat_lowHalf_lt a) (toNat_highHalf_lt b)]
  omega

/-- The upper word of a product: none of its sums wraps around. -/
theorem toNat_product_high (a b : UInt64) :
    (product a b).high.toNat =
      (highHalf a).toNat * (highHalf b).toNat +
        (highHalf a).toNat * (lowHalf b).toNat / 0x100000000 +
        (lowHalf a).toNat * (highHalf b).toNat / 0x100000000 +
        (middleColumn a b).toNat / 0x100000000 := by
  have hfits := highColumn_le a b
  rw [← toNat_mul_digits (toNat_highHalf_lt a) (toNat_highHalf_lt b),
    ← toNat_mul_digits (toNat_highHalf_lt a) (toNat_lowHalf_lt b),
    ← toNat_mul_digits (toNat_lowHalf_lt a) (toNat_highHalf_lt b), ← toNat_highHalf,
    ← toNat_highHalf, ← toNat_highHalf, product, UInt64.toNat_add, UInt64.toNat_add,
    UInt64.toNat_add]
  omega

/-- The two words of a product stand for the product. -/
theorem toNat_product (a b : UInt64) : (product a b).toNat = a.toNat * b.toNat := by
  rw [WideWord.toNat, toNat_product_high, toNat_product_low, toNat_middleColumn,
    toNat_eq_halves a, toNat_eq_halves b]
  generalize (highHalf a).toNat = ah
  generalize (highHalf b).toNat = bh
  generalize (lowHalf a).toNat = al
  generalize (lowHalf b).toNat = bl
  have hexpand : (ah * 0x100000000 + al) * (bh * 0x100000000 + bl) =
      ah * bh * 0x10000000000000000 + (ah * bl + al * bh) * 0x100000000 + al * bl := by ring
  rw [hexpand]
  omega

/-! ## The operations of a product -/

/-- The full product of two words in an arithmetic, one operation after the other. Only the lower
halves are taken as they are. -/
def productWith {m : Type → Type} [Monad m] (ops : WordArithmetic m) (a b : UInt64) :
    m WideWord := do
  let aHigh ← ops.shiftRight a 32
  let bHigh ← ops.shiftRight b 32
  let lowLow ← ops.mul (lowHalf a) (lowHalf b)
  let highLow ← ops.mul aHigh (lowHalf b)
  let lowHigh ← ops.mul (lowHalf a) bHigh
  let highHigh ← ops.mul aHigh bHigh
  let carry ← ops.shiftRight lowLow 32
  let carried ← ops.add carry (lowHalf highLow)
  let middle ← ops.add carried (lowHalf lowHigh)
  let column ← ops.shiftLeft middle 32
  let highLowUpper ← ops.shiftRight highLow 32
  let upper ← ops.add highHigh highLowUpper
  let lowHighUpper ← ops.shiftRight lowHigh 32
  let upperBoth ← ops.add upper lowHighUpper
  let middleUpper ← ops.shiftRight middle 32
  let high ← ops.add upperBoth middleUpper
  return ⟨high, column ||| lowHalf lowLow⟩

/-- With the operations of the words this is `product`. -/
theorem run_productWith (a b : UInt64) : Id.run (productWith .wrapping a b) = product a b := rfl

/-- Every arithmetic that is exact without overflow gives the product, whatever it does on overflow.
-/
theorem productWith_eq_pure {m : Type → Type} [Monad m] [LawfulMonad m] {ops : WordArithmetic m}
    (h : ops.IsExact) (a b : UInt64) : productWith ops a b = pure (product a b) := by
  have hupperHalf (x : UInt64) : ops.shiftRight x 32 = pure (highHalf x) :=
    h.shiftRight x 32 (by decide)
  have hcolumn (x : UInt64) : ops.shiftLeft x 32 = pure (x <<< 32) := h.shiftLeft x 32 (by decide)
  have hdigits {x y : UInt64} (hx : x.toNat < 0x100000000) (hy : y.toNat < 0x100000000) :
      ops.mul x y = pure (x * y) :=
    h.mul x y (le_trans (mul_digits_le hx hy) (by decide))
  have hll := hdigits (toNat_lowHalf_lt a) (toNat_lowHalf_lt b)
  have hhl := hdigits (toNat_highHalf_lt a) (toNat_lowHalf_lt b)
  have hlh := hdigits (toNat_lowHalf_lt a) (toNat_highHalf_lt b)
  have hhh := hdigits (toNat_highHalf_lt a) (toNat_highHalf_lt b)
  -- the middle column has three digits
  have hfirst := toNat_highHalf_lt (lowHalf a * lowHalf b)
  have hsecond := toNat_lowHalf_lt (highHalf a * lowHalf b)
  have hthird := toNat_lowHalf_lt (lowHalf a * highHalf b)
  have hcarried := h.add (highHalf (lowHalf a * lowHalf b)) (lowHalf (highHalf a * lowHalf b))
    (by omega)
  have hmiddle : ops.add (highHalf (lowHalf a * lowHalf b) + lowHalf (highHalf a * lowHalf b))
      (lowHalf (lowHalf a * highHalf b)) = pure (middleColumn a b) :=
    h.add _ _ (by rw [UInt64.toNat_add]; omega)
  -- a sum of the upper word is at most the whole column
  have hfits := highColumn_le a b
  have hupper := h.add (highHalf a * highHalf b) (highHalf (highHalf a * lowHalf b)) (by omega)
  have hboth := h.add (highHalf a * highHalf b + highHalf (highHalf a * lowHalf b))
    (highHalf (lowHalf a * highHalf b)) (by rw [UInt64.toNat_add]; omega)
  have hhigh := h.add (highHalf a * highHalf b + highHalf (highHalf a * lowHalf b) +
    highHalf (lowHalf a * highHalf b)) (highHalf (middleColumn a b))
    (by rw [UInt64.toNat_add, UInt64.toNat_add]; omega)
  simp only [productWith, hupperHalf, hcolumn, hll, hhl, hlh, hhh, hcarried, hmiddle, hupper, hboth,
    hhigh, pure_bind]
  rfl

/-- Even the largest words leave room in both columns. -/
example : productWith .checked 0xffffffffffffffff 0xffffffffffffffff =
    some ⟨0xfffffffffffffffe, 1⟩ := by decide

/-- The two words of a product stand for the product of the factors, and no sum or product on the
way overflows: the operations of `product` in checked arithmetic refuse no factors. -/
theorem product_neverOverflows (a b : UInt64) :
    (product a b).high.toNat * 0x10000000000000000 + (product a b).low.toNat =
        a.toNat * b.toNat ∧
      Id.run (productWith .wrapping a b) = product a b ∧
      productWith .checked a b = some (product a b) :=
  ⟨toNat_product a b, run_productWith a b, productWith_eq_pure WordArithmetic.isExact_checked a b⟩

end SoftClock.WideWord
