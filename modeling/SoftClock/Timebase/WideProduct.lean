/-!
# Wide Products of Machine Words

The full 128-bit product of two 64-bit words, formed from four products of their 32-bit halves so
that no intermediate value leaves 64 bits.
-/

namespace SoftClock

/-- A 128-bit number in two words. -/
structure WideWord where
  high : UInt64
  low : UInt64
  deriving DecidableEq, Repr

namespace WideWord

/-- The number that two words stand for. -/
def toNat (w : WideWord) : Nat := w.high.toNat * 0x10000000000000000 + w.low.toNat

/-- The lower half of a word. -/
def lowHalf (a : UInt64) : UInt64 := a &&& 0xffffffff

/-- The upper half of a word. -/
def highHalf (a : UInt64) : UInt64 := a >>> 32

/-- The column in the middle of a product: what the low product carries and the lower halves of both
cross products. -/
def middleColumn (a b : UInt64) : UInt64 :=
  ((lowHalf a * lowHalf b) >>> 32) + lowHalf (highHalf a * lowHalf b) +
    lowHalf (lowHalf a * highHalf b)

/-- The full product of two words. -/
def product (a b : UInt64) : WideWord where
  high :=
    highHalf a * highHalf b + highHalf (highHalf a * lowHalf b) +
      highHalf (lowHalf a * highHalf b) + highHalf (middleColumn a b)
  low := (middleColumn a b <<< 32) ||| lowHalf (lowHalf a * lowHalf b)

end WideWord

end SoftClock
