import SoftClock.Proofs.Time.Exact

/-!
# Totals in Nanoseconds

How far the totals that a time gives are its exact total, clamped to the unsigned words, and so
follow the order of the times.

* Seconds and nanoseconds are clamped each on their own, so a time before the epoch with a fraction
  counts as its fraction (`Timespec.clampsTotal_iff`).
* A count of nanoseconds is the total of its time (`Timespec.nanos_ofNanos`).
* Seconds and microseconds are added exactly, but a total that is too large counts as nothing
  (`Timeval.clampsTotal_iff`).
* Where the exact total is clamped, the order is kept (`Timespec.nanos_le_nanos`,
  `Timeval.nanos_le_nanos`), and the two shapes of a time have the same total
  (`Timeval.nanos_toTimespec_iff`).
-/

namespace SoftClock

/-- An exact total, clamped to the unsigned words. -/
def clampTotal (nanos : ℤ) : ℕ := min nanos.toNat 0xffffffffffffffff

/-- Clamping keeps the order. -/
theorem clampTotal_le_clampTotal {a b : ℤ} (h : a ≤ b) : clampTotal a ≤ clampTotal b := by
  unfold clampTotal
  omega

/-! ## Seconds and nanoseconds -/

namespace Timespec

/-- The total is the clamped exact one. -/
def ClampsTotal (time : Timespec) : Prop := time.nanos.toNat = clampTotal time.exactNanos

instance (time : Timespec) : Decidable time.ClampsTotal := inferInstanceAs (Decidable (_ = _))

/-- The total in numeral form. -/
theorem toNat_nanos (time : Timespec) :
    time.nanos.toNat =
      min (time.sec.toInt.toNat * 1000000000 + time.nsec.toInt.toNat) 0xffffffffffffffff :=
  toNat_ofNatClamp _

/-- Proper times are ordered as their exact totals. -/
theorem le_iff_exactNanos_le {time later : Timespec} (hproper : time.IsNormalized)
    (hproper' : later.IsNormalized) : time ≤ later ↔ time.exactNanos ≤ later.exactNanos := by
  obtain ⟨hlow, hhigh⟩ := hproper
  obtain ⟨hlow', hhigh'⟩ := hproper'
  change _ < (1000000000 : ℤ) at hhigh
  change _ < (1000000000 : ℤ) at hhigh'
  change time.sec < later.sec ∨ (time.sec = later.sec ∧ time.nsec ≤ later.nsec) ↔ _
  rw [Int64.lt_iff_toInt_lt, Int64.le_iff_toInt_le, ← Int64.toInt_inj, exactNanos, exactNanos]
  -- a fraction is less than a second, so it decides only between equal seconds
  omega

/-- A proper time is known by its exact total. -/
theorem eq_of_exactNanos_eq {time other : Timespec} (hproper : time.IsNormalized)
    (hproper' : other.IsNormalized) (hexact : time.exactNanos = other.exactNanos) :
    time = other := by
  obtain ⟨hlow, hhigh⟩ := hproper
  obtain ⟨hlow', hhigh'⟩ := hproper'
  change _ < (1000000000 : ℤ) at hhigh
  change _ < (1000000000 : ℤ) at hhigh'
  rw [exactNanos, exactNanos] at hexact
  exact eq_of_toInt_eq (by omega) (by omega)

/-- The total of a proper time is the clamped exact one, unless the time is before the epoch and
has a fraction. -/
theorem clampsTotal_iff {time : Timespec} (hproper : time.IsNormalized) :
    time.ClampsTotal ↔ (time.sec.toInt < 0 → time.nsec.toInt = 0) := by
  obtain ⟨hlow, hhigh⟩ := hproper
  change _ < (1000000000 : ℤ) at hhigh
  rw [ClampsTotal, toNat_nanos, clampTotal, exactNanos]
  omega

/-- Clamping the parts never loses more than clamping the total. -/
theorem clampTotal_le_nanos {time : Timespec} (hproper : time.IsNormalized) :
    clampTotal time.exactNanos ≤ time.nanos.toNat := by
  have hlow := hproper.1
  rw [toNat_nanos, clampTotal, exactNanos]
  omega

/-- No later time has a smaller total, as long as that of the earlier one is the clamped exact one.
-/
theorem nanos_le_nanos {time later : Timespec} (hproper : time.IsNormalized)
    (hproper' : later.IsNormalized) (hclamps : time.ClampsTotal) (hle : time ≤ later) :
    time.nanos ≤ later.nanos := by
  rw [UInt64.le_iff_toNat_le]
  calc time.nanos.toNat = clampTotal time.exactNanos := hclamps
    _ ≤ clampTotal later.exactNanos :=
      clampTotal_le_clampTotal ((le_iff_exactNanos_le hproper hproper').mp hle)
    _ ≤ later.nanos.toNat := clampTotal_le_nanos hproper'

end Timespec

/-! ## Counts of nanoseconds -/

namespace Timespec

/-- The seconds and nanoseconds of a count of nanoseconds. -/
theorem ofNanos_parts (nanos : UInt64) :
    (ofNanos nanos).sec.toInt = (nanos.toNat / 1000000000 : ℕ) ∧
      (ofNanos nanos).nsec.toInt = (nanos.toNat % 1000000000 : ℕ) := by
  have hnanos := nanos.toNat_lt
  have hsec : (nanos / 1000000000).toNat = nanos.toNat / 1000000000 := by
    rw [UInt64.toNat_div]
    rfl
  have hnsec : (nanos % 1000000000).toNat = nanos.toNat % 1000000000 := by
    rw [UInt64.toNat_mod]
    rfl
  rw [ofNanos, toInt_toInt64 (by omega), toInt_toInt64 (by omega), hsec, hnsec]
  exact ⟨rfl, rfl⟩

/-- A count of nanoseconds becomes a proper time with that exact total. -/
theorem exactNanos_ofNanos (nanos : UInt64) :
    (ofNanos nanos).IsNormalized ∧ 0 ≤ (ofNanos nanos).sec.toInt ∧
      (ofNanos nanos).exactNanos = nanos.toNat := by
  obtain ⟨hsec, hnsec⟩ := ofNanos_parts nanos
  refine ⟨?_, by omega, ?_⟩
  · show 0 ≤ _ ∧ _ < (1000000000 : ℤ)
    omega
  · rw [exactNanos, hsec, hnsec]
    omega

/-- A count of nanoseconds is the total of its time. -/
theorem nanos_ofNanos (nanos : UInt64) : (ofNanos nanos).nanos = nanos := by
  have hlt := nanos.toNat_lt
  obtain ⟨hsec, hnsec⟩ := ofNanos_parts nanos
  rw [← UInt64.toNat_inj, toNat_nanos, hsec, hnsec]
  omega

end Timespec

/-! ## Seconds and microseconds -/

namespace Timeval

/-- The total is the clamped exact one. -/
def ClampsTotal (time : Timeval) : Prop := time.nanos.toNat = clampTotal time.exactNanos

instance (time : Timeval) : Decidable time.ClampsTotal := inferInstanceAs (Decidable (_ = _))

/-- Proper times are ordered as their exact totals. -/
theorem le_iff_exactNanos_le {time later : Timeval} (hproper : time.IsNormalized)
    (hproper' : later.IsNormalized) : time ≤ later ↔ time.exactNanos ≤ later.exactNanos := by
  obtain ⟨hlow, hhigh⟩ := hproper
  obtain ⟨hlow', hhigh'⟩ := hproper'
  change time.sec < later.sec ∨ (time.sec = later.sec ∧ time.usec ≤ later.usec) ↔ _
  rw [Int64.lt_iff_toInt_lt, Int64.le_iff_toInt_le, ← Int64.toInt_inj, exactNanos_eq,
    exactNanos_eq]
  omega

/-- A proper time stays proper in microseconds. -/
theorem isNormalized_ofTimespec {time : Timespec} (hproper : time.IsNormalized) :
    (ofTimespec time).IsNormalized := by
  obtain ⟨hlow, hhigh⟩ := hproper
  change _ < (1000000000 : ℤ) at hhigh
  rw [IsNormalized, usec_ofTimespec ⟨hlow, hhigh⟩]
  omega

/-- Proper times are ordered in microseconds as their totals, rounded down. -/
theorem ofTimespec_le_iff {time later : Timespec} (hproper : time.IsNormalized)
    (hproper' : later.IsNormalized) :
    ofTimespec time ≤ ofTimespec later ↔
      microFloor time.exactNanos ≤ microFloor later.exactNanos := by
  rw [le_iff_exactNanos_le (isNormalized_ofTimespec hproper) (isNormalized_ofTimespec hproper'),
    exactNanos_ofTimespec hproper, exactNanos_ofTimespec hproper']

/-- A total below the epoch is zero. -/
theorem nanos_of_neg {time : Timeval} (hneg : time.exactNanos < 0) : time.nanos = 0 := by
  rw [nanos, if_neg (by omega)]

/-- A total that is too large is zero. -/
theorem nanos_of_lt {time : Timeval} (hlarge : 0xffffffffffffffff < time.exactNanos) :
    time.nanos = 0 := by
  rw [nanos, if_neg (by omega)]

/-- The total is the clamped exact one exactly if that is not too large. -/
theorem clampsTotal_iff {time : Timeval} :
    time.ClampsTotal ↔ time.exactNanos ≤ 0xffffffffffffffff := by
  rw [ClampsTotal, clampTotal]
  rcases Int.lt_or_le time.exactNanos 0 with hneg | hlow
  · rw [nanos_of_neg hneg]
    change 0 = _ ↔ _
    omega
  · rcases Int.lt_or_le 0xffffffffffffffff time.exactNanos with hlarge | hhigh
    · rw [nanos_of_lt hlarge]
      change 0 = _ ↔ _
      omega
    · have hexact := toNat_nanos hlow hhigh
      omega

/-- The total never exceeds the clamped exact one. -/
theorem nanos_le_clampTotal (time : Timeval) : time.nanos.toNat ≤ clampTotal time.exactNanos := by
  rcases Int.lt_or_le 0xffffffffffffffff time.exactNanos with hlarge | hhigh
  · rw [nanos_of_lt hlarge]
    exact Nat.zero_le _
  · exact (clampsTotal_iff.mpr hhigh).le

/-- No later time has a smaller total, as long as that of the later one is the clamped exact one. -/
theorem nanos_le_nanos {time later : Timeval} (hproper : time.IsNormalized)
    (hproper' : later.IsNormalized) (hclamps : later.ClampsTotal) (hle : time ≤ later) :
    time.nanos ≤ later.nanos := by
  rw [UInt64.le_iff_toNat_le]
  calc time.nanos.toNat ≤ clampTotal time.exactNanos := time.nanos_le_clampTotal
    _ ≤ clampTotal later.exactNanos :=
      clampTotal_le_clampTotal ((le_iff_exactNanos_le hproper hproper').mp hle)
    _ = later.nanos.toNat := hclamps.symm

/-! ## The same time in both shapes -/

/-- The two shapes of a time have the same total exactly if both clamp it. One of them errs upward,
the other downward. -/
theorem nanos_toTimespec_iff {time : Timeval} (hproper : time.IsNormalized) :
    time.toTimespec.nanos = time.nanos ↔ time.toTimespec.ClampsTotal ∧ time.ClampsTotal := by
  obtain ⟨hproper', hexact⟩ := exactNanos_toTimespec hproper
  have hup := Timespec.clampTotal_le_nanos hproper'
  have hdown := time.nanos_le_clampTotal
  rw [Timespec.ClampsTotal, ClampsTotal, ← UInt64.toNat_inj]
  -- the clamped total lies between the two
  rw [hexact] at hup ⊢
  omega

end Timeval

end SoftClock
