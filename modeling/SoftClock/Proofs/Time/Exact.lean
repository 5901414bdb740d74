import SoftClock.Proofs.Word.Clamp
import SoftClock.Time.Timespec
import Mathlib.Data.Int.Notation

/-!
# Exact Times

What the conversions between the two shapes of a time do to its exact total in nanoseconds.

* An exact total becomes the time at the microsecond at or below it, as long as its seconds fit a
  signed word (`Timeval.exactNanos_of_fitsSeconds`).
* A proper time is truncated to microseconds on its way to a `Timeval`
  (`Timeval.exactNanos_ofTimespec`), and nothing is lost on the way back
  (`Timeval.exactNanos_toTimespec`).
* A count of microseconds is clamped to the signed words twice, first the whole seconds and then the
  total. `Timeval.ClampsOnce` says when this is the same as clamping the exact total
  (`Timeval.clampsOnce_iff`).
-/

namespace SoftClock

/-- The whole seconds of an exact total fit a signed word. -/
def FitsSeconds (nanos : ℤ) : Prop :=
  -0x8000000000000000 ≤ nanos / 1000000000 ∧ nanos / 1000000000 ≤ 0x7fffffffffffffff

instance (nanos : ℤ) : Decidable (FitsSeconds nanos) := inferInstanceAs (Decidable (_ ∧ _))

/-- The microsecond at or below an exact total, in nanoseconds. -/
def microFloor (nanos : ℤ) : ℤ := nanos / 1000 * 1000

/-- Rounding down to microseconds takes less than a microsecond away. -/
theorem microFloor_bounds (nanos : ℤ) :
    microFloor nanos ≤ nanos ∧ nanos ≤ microFloor nanos + 999 := by
  unfold microFloor
  omega

/-- Exact signed total in nanoseconds. -/
def Timespec.exactNanos (time : Timespec) : ℤ := time.sec.toInt * 1000000000 + time.nsec.toInt

/-- A time is known by the numbers of its parts. -/
theorem Timespec.eq_of_toInt_eq {time other : Timespec} (hsec : time.sec.toInt = other.sec.toInt)
    (hnsec : time.nsec.toInt = other.nsec.toInt) : time = other := by
  cases time
  cases other
  rw [mk.injEq]
  exact ⟨Int64.toInt_inj.mp hsec, Int64.toInt_inj.mp hnsec⟩

namespace Timeval

/-- The microseconds are a proper fraction of a second. -/
def IsNormalized (time : Timeval) : Prop := 0 ≤ time.usec.toInt ∧ time.usec.toInt < 1000000

instance (time : Timeval) : Decidable time.IsNormalized := inferInstanceAs (Decidable (_ ∧ _))

/-- The exact total in numeral form. -/
theorem exactNanos_eq (time : Timeval) :
    time.exactNanos = time.sec.toInt * 1000000000 + time.usec.toInt * 1000 := rfl

/-- The parts of the time at an exact total whose seconds fit. -/
theorem ofExactNanos_parts {nanos : ℤ} (hfits : FitsSeconds nanos) :
    (ofExactNanos nanos).sec.toInt = nanos / 1000000000 ∧
      (ofExactNanos nanos).usec.toInt = nanos / 1000 % 1000000 := by
  have hmicro : (nanosPerMicro : ℤ) = 1000 := rfl
  have hsecond : (microsPerSecond : ℤ) = 1000000 := rfl
  have hdiv : nanos / 1000 / 1000000 = nanos / 1000000000 := by omega
  obtain ⟨hlow, hhigh⟩ := hfits
  simp only [ofExactNanos, hmicro, hsecond, hdiv]
  rw [if_pos ⟨hlow, hhigh⟩]
  constructor
  · rw [Int64.toInt_ofInt_of_le] <;> omega
  · rw [Int64.toInt_ofInt_of_le] <;> omega

/-- A total whose seconds fit a signed word is shown to the microsecond at or below it. -/
theorem exactNanos_of_fitsSeconds {nanos : ℤ} (hfits : FitsSeconds nanos) :
    (ofExactNanos nanos).exactNanos = microFloor nanos := by
  obtain ⟨hsec, husec⟩ := ofExactNanos_parts hfits
  rw [exactNanos_eq, hsec, husec, microFloor]
  omega

/-- The microseconds of a proper time are its nanoseconds, divided without a rest. -/
theorem usec_ofTimespec {time : Timespec} (hproper : time.IsNormalized) :
    (ofTimespec time).usec.toInt = time.nsec.toInt / 1000 := by
  have hthousand : (1000 : Int64).toInt = 1000 := rfl
  obtain ⟨hnonneg, hlt⟩ := hproper
  have hbound : time.nsec.toInt < 1000000000 := hlt
  rw [ofTimespec, Int64.toInt_div, hthousand, Int.tdiv_eq_ediv_of_nonneg hnonneg,
    Int.bmod_eq_of_le (by omega) (by omega)]

/-- A proper time is truncated to microseconds. -/
theorem exactNanos_ofTimespec {time : Timespec} (hproper : time.IsNormalized) :
    (ofTimespec time).exactNanos = microFloor time.exactNanos := by
  rw [exactNanos_eq, usec_ofTimespec hproper, microFloor, Timespec.exactNanos]
  show time.sec.toInt * 1000000000 + _ = _
  omega

/-- The nanoseconds of a time whose microseconds are a proper fraction of a second. -/
theorem nsec_toTimespec {time : Timeval} (hlow : 0 ≤ time.usec.toInt)
    (hhigh : time.usec.toInt < 1000000) : time.toTimespec.nsec.toInt = time.usec.toInt * 1000 := by
  have hthousand : (1000 : Int64).toInt = 1000 := rfl
  rw [toTimespec, Int64.toInt_mul, hthousand, Int.bmod_eq_of_le (by omega) (by omega)]

/-- A proper time stays proper in nanoseconds, and keeps its exact total. -/
theorem exactNanos_toTimespec {time : Timeval} (hproper : time.IsNormalized) :
    time.toTimespec.IsNormalized ∧ time.toTimespec.exactNanos = time.exactNanos := by
  obtain ⟨hlow, hhigh⟩ := hproper
  have hnsec := nsec_toTimespec hlow hhigh
  refine ⟨?_, ?_⟩
  · show 0 ≤ _ ∧ _ < (1000000000 : ℤ)
    omega
  · rw [Timespec.exactNanos, hnsec]
    rfl

/-- The time at an exact total whose seconds fit is proper. -/
theorem isNormalized_ofExactNanos {nanos : ℤ} (hfits : FitsSeconds nanos) :
    (ofExactNanos nanos).IsNormalized := by
  obtain ⟨-, husec⟩ := ofExactNanos_parts hfits
  show 0 ≤ _ ∧ _ < (1000000 : ℤ)
  omega

/-- The time at an exact total whose seconds fit, in seconds and nanoseconds. It is proper, and
nothing more is lost. -/
theorem toTimespec_ofExactNanos {nanos : ℤ} (hfits : FitsSeconds nanos) :
    (ofExactNanos nanos).toTimespec.IsNormalized ∧
      (ofExactNanos nanos).toTimespec.exactNanos = microFloor nanos := by
  obtain ⟨hproper, hexact⟩ := exactNanos_toTimespec (isNormalized_ofExactNanos hfits)
  exact ⟨hproper, hexact.trans (exactNanos_of_fitsSeconds hfits)⟩

/-- A total that fits 64 bits without a sign is given as it is. -/
theorem toNat_nanos {time : Timeval} (hlow : 0 ≤ time.exactNanos)
    (hhigh : time.exactNanos ≤ 0xffffffffffffffff) : (time.nanos.toNat : ℤ) = time.exactNanos := by
  rw [nanos, if_pos ⟨hlow, hhigh⟩, UInt64.toNat_ofNat', Int.natCast_emod,
    Int.toNat_of_nonneg hlow]
  omega

/-! ## Microseconds -/

/-- Exact signed total in microseconds. -/
def exactMicros (time : Timeval) : ℤ := time.sec.toInt * 1000000 + time.usec.toInt

theorem exactNanos_eq_exactMicros (time : Timeval) : time.exactNanos = time.exactMicros * 1000 := by
  rw [exactNanos_eq, exactMicros]
  omega

/-- The exact total in microseconds is a signed word. -/
def FitsMicros (time : Timeval) : Prop :=
  -0x8000000000000000 ≤ time.exactMicros ∧ time.exactMicros ≤ 0x7fffffffffffffff

instance (time : Timeval) : Decidable time.FitsMicros := inferInstanceAs (Decidable (_ ∧ _))

/-- Where the whole seconds leave the signed words in microseconds, the rest does not lead back
toward them. -/
structure ClampsOnce (time : Timeval) : Prop where
  below : time.sec.toInt * 1000000 < -0x8000000000000000 → time.usec.toInt ≤ 0
  above : 0x7fffffffffffffff < time.sec.toInt * 1000000 → 0 ≤ time.usec.toInt

instance (time : Timeval) : Decidable time.ClampsOnce :=
  decidable_of_iff (_ ∧ _) ⟨fun h => ⟨h.1, h.2⟩, fun h => ⟨h.below, h.above⟩⟩

/-- The count of microseconds is the clamped exact total for these times, and for no others. -/
theorem clampsOnce_iff (time : Timeval) : time.ClampsOnce ↔
    time.micros.toInt = max (-0x8000000000000000) (min time.exactMicros 0x7fffffffffffffff) := by
  have hmillion : (microsPerSecond : ℤ) = 1000000 := rfl
  have husec := toInt_mem_range time.usec
  rw [micros, hmillion, toInt_ofIntClamp, toInt_ofIntClamp, exactMicros]
  constructor
  · intro h
    have hbelow := h.below
    have habove := h.above
    omega
  · intro h
    refine ⟨fun hlow => ?_, fun hhigh => ?_⟩ <;> omega

/-- The count of microseconds is the exact total where that fits. -/
theorem ClampsOnce.toInt_micros {time : Timeval} (h : time.ClampsOnce) (hfits : time.FitsMicros) :
    time.micros.toInt = time.exactMicros := by
  obtain ⟨hlow, hhigh⟩ := hfits
  rw [time.clampsOnce_iff.mp h, min_eq_left hhigh, max_eq_right hlow]

/-- Later times have no smaller counts of microseconds. -/
theorem ClampsOnce.micros_le {time later : Timeval} (h : time.ClampsOnce) (h' : later.ClampsOnce)
    (hle : time.exactNanos ≤ later.exactNanos) : time.micros.toInt ≤ later.micros.toInt := by
  rw [exactNanos_eq_exactMicros, exactNanos_eq_exactMicros] at hle
  rw [time.clampsOnce_iff.mp h, later.clampsOnce_iff.mp h']
  omega

end Timeval

end SoftClock
