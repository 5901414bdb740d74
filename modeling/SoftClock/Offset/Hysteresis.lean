/-!
# When an Offset May Rise

An estimate replaces the committed offset only if it lies above it by more than a margin. The margin
is a fixed floor, or the advance that a slewing wall clock alone could have caused since the last
commit, whichever is larger.
-/

namespace SoftClock

/-- The margin that an estimate has to exceed: `floor`, or `ppm` millionths of the ticks since the
last commit, saturating at 64 bits. -/
def requiredAdvance (floor sinceCommit : UInt64) (ppm : UInt32) : UInt64 :=
  max floor (.ofNatClamp (sinceCommit.toNat * ppm.toNat / 1000000))

/-- The candidate where it exceeds the committed offset by more than the margin, else the committed
offset. The sum of offset and margin saturates at 64 bits. -/
def applyHysteresis (committed : UInt64) (candidate : Int64) (margin : UInt64) : UInt64 :=
  if (min (committed.toNat + margin.toNat) 0xffffffffffffffff : Int) < candidate.toInt then
    .ofNat candidate.toInt.toNat
  else
    committed

/-- The committed offset after each of a sequence of candidates. -/
def hysteresisRun (margin : UInt64) : UInt64 → List Int64 → List UInt64
  | _, [] => []
  | committed, candidate :: rest =>
    let next := applyHysteresis committed candidate margin
    next :: hysteresisRun margin next rest

end SoftClock
