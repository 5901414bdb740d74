/-!
# Tick Scales

The length of a tick as a ratio of nanoseconds, and the fixed-point multiplier that stands for the
ratio. The multiplier has 32 integer bits and `32 + extra` fractional bits; `extra` is the largest
headroom of at most 31 bits that leaves it below `2 ^ 64`, and it is rounded up so that exact
multiples of the ratio cancel exactly.
-/

namespace SoftClock

/-- Nanoseconds per tick, as `numer / denom`. -/
structure Scale where
  numer : UInt32
  denom : UInt32
  deriving DecidableEq, Repr

namespace Scale

/-- One tick per nanosecond. -/
def identity : Scale := ⟨1, 1⟩

/-- A tick of 125/3 nanoseconds, as a 24 MHz counter reports it. -/
def megahertz24 : Scale := ⟨1000000000, 24000000⟩

/-- Whether ticks are nanoseconds already. -/
def isIdentity (s : Scale) : Bool := s.numer == s.denom

/-- Whether both terms can be divided by. -/
def isUsable (s : Scale) : Bool := s.numer != 0 && s.denom != 0

/-- Ticks per second, rounded down; zero for a zero numerator. -/
def frequency (s : Scale) : UInt64 :=
  .ofNatClamp (1000000000 * s.denom.toNat / s.numer.toNat)

/-- The multiplier for a headroom of `extra` bits, rounded up. -/
def scaledMultiplier (s : Scale) (extra : Nat) : Nat :=
  (s.numer.toNat <<< (32 + extra) + (s.denom.toNat - 1)) / s.denom.toNat

/-- The largest headroom that leaves the multiplier below `2 ^ 64`, with the multiplier. -/
def headroom? (s : Scale) : Option (UInt64 × Nat) :=
  (List.range 32).reverse.findSome? fun extra =>
    if s.scaledMultiplier extra < 0x10000000000000000 then
      some (.ofNat (s.scaledMultiplier extra), extra)
    else
      none

/-- The multiplier and headroom of a usable scale. A scale whose ticks are nanoseconds is stored
without headroom. -/
def fixedPoint? (s : Scale) : Option (UInt64 × Nat) :=
  if s.isUsable then
    if s.isIdentity then some (0x100000000, 0) else s.headroom?
  else
    none

/-- How messages show a scale. -/
def label (s : Scale) : String :=
  toString s.numer.toNat ++ "/" ++ toString s.denom.toNat

end Scale

end SoftClock
