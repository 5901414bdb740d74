import Mathlib.Data.Nat.Notation

/-!
# Arithmetic of Words

The sums, products and shifts that a computation with words is made of, left open so that one
computation can be run in several ways. `WordArithmetic.wrapping` has the operations of the words
themselves. `WordArithmetic.checked` refuses a sum or product that does not fit a word, and a shift
by nothing or by a whole word.

* `WordArithmetic.IsExact` says that an arithmetic has the operations of the words as long as
  nothing overflows. Whatever it does otherwise, a computation without overflow does not show it.
* `WordArithmetic.isExact_checked`: the checked arithmetic is one of them.
-/

namespace SoftClock

/-- Sums, products and shifts of words. The second word of a shift is its amount. -/
structure WordArithmetic (m : Type → Type) where
  add : UInt64 → UInt64 → m UInt64
  mul : UInt64 → UInt64 → m UInt64
  shiftLeft : UInt64 → UInt64 → m UInt64
  shiftRight : UInt64 → UInt64 → m UInt64

namespace WordArithmetic

/-- The operations of the words: sums and products wrap around. -/
def wrapping : WordArithmetic Id where
  add x y := x + y
  mul x y := x * y
  shiftLeft x amount := x <<< amount
  shiftRight x amount := x >>> amount

/-- An amount by which a word can be shifted: not nothing, and not a whole word. -/
def IsShiftAmount (amount : UInt64) : Prop := 1 ≤ amount.toNat ∧ amount.toNat ≤ 63

instance (amount : UInt64) : Decidable (IsShiftAmount amount) :=
  inferInstanceAs (Decidable (_ ∧ _))

/-- The operations of the words, where they do not overflow and the amounts are proper. -/
def checked : WordArithmetic Option where
  add x y := if x.toNat + y.toNat ≤ 0xffffffffffffffff then some (x + y) else none
  mul x y := if x.toNat * y.toNat ≤ 0xffffffffffffffff then some (x * y) else none
  shiftLeft x amount := if IsShiftAmount amount then some (x <<< amount) else none
  shiftRight x amount := if IsShiftAmount amount then some (x >>> amount) else none

/-- An arithmetic does what words do, as long as nothing overflows and the amounts are proper. -/
structure IsExact {m : Type → Type} [Monad m] (ops : WordArithmetic m) : Prop where
  /-- A sum that fits a word. -/
  add : ∀ x y : UInt64, x.toNat + y.toNat ≤ 0xffffffffffffffff → ops.add x y = pure (x + y)
  /-- A product that fits a word. -/
  mul : ∀ x y : UInt64, x.toNat * y.toNat ≤ 0xffffffffffffffff → ops.mul x y = pure (x * y)
  shiftLeft : ∀ x amount : UInt64, IsShiftAmount amount →
    ops.shiftLeft x amount = pure (x <<< amount)
  shiftRight : ∀ x amount : UInt64, IsShiftAmount amount →
    ops.shiftRight x amount = pure (x >>> amount)

theorem isExact_checked : checked.IsExact where
  add _ _ hfits := if_pos hfits
  mul _ _ hfits := if_pos hfits
  shiftLeft _ _ hamount := if_pos hamount
  shiftRight _ _ hamount := if_pos hamount

end WordArithmetic

end SoftClock
