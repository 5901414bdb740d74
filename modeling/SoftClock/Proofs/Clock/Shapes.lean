import SoftClock.Machine.Scripted
import SoftClock.Proofs.Clock.Sources
import SoftClock.Proofs.Time.Totals

/-!
# The Two Shapes of a Reading

A clock is asked for a count of nanoseconds or for seconds and nanoseconds. Each answer is one time
of the machine or of a counter in either shape.

* `splitNanos` recovers the rest of a second with arithmetic in 32 bits (`toNat_splitNanos`), so a
  clock splits a count as `Timespec.ofNanos` does (`Clock.splitTimespec_eq_ofNanos`).
* The wall clock is split without going through a count. For a reading that a count can hold this
  makes no difference (`Timeval.toTimespec_splits`).
* `Clock.querySplit_agrees` states this for every clock, over machines that answer alike.
* `Clock.realtime_followsTotals` says how far counts of nanoseconds follow the exact totals of
  times, and so the readings of the wall clock.
-/

namespace SoftClock

/-- The whole seconds of a count of nanoseconds and the rest, which arithmetic in 32 bits recovers.
-/
theorem toNat_splitNanos (nanos : UInt64) :
    (splitNanos nanos).1.toNat = nanos.toNat / 1000000000 ∧
      (splitNanos nanos).2.toNat = nanos.toNat % 1000000000 := by
  have hsecs : (nanos / 1000000000).toNat = nanos.toNat / 1000000000 := by
    rw [UInt64.toNat_div]
    rfl
  refine ⟨hsecs, ?_⟩
  rw [splitNanos, UInt32.toNat_sub, UInt32.toNat_mul, UInt64.toNat_toUInt32,
    UInt64.toNat_toUInt32, hsecs]
  -- the rest is less than 32 bits, so what was cut off before the subtraction does not matter
  change (2 ^ 32 - nanos.toNat / 1000000000 % 2 ^ 32 * 1000000000 % 2 ^ 32 + nanos.toNat % 2 ^ 32) %
    2 ^ 32 = _
  omega

/-- A time of a clock is split as a count of nanoseconds. -/
theorem Clock.splitTimespec_eq_ofNanos (nanos : UInt64) :
    splitTimespec nanos = .ofNanos nanos := by
  have hnanos := nanos.toNat_lt
  obtain ⟨hsecs, hrest⟩ := toNat_splitNanos nanos
  obtain ⟨hsec, hnsec⟩ := Timespec.ofNanos_parts nanos
  -- the seconds of a word of nanoseconds are far from the clamp
  have hsec' : (splitTimespec nanos).sec.toInt = (nanos.toNat / 1000000000 : ℕ) := by
    rw [splitTimespec, hsecs, toInt_ofIntClamp]
    omega
  have hnsec' : (splitTimespec nanos).nsec.toInt = (nanos.toNat % 1000000000 : ℕ) := by
    rw [splitTimespec, hrest]
    exact Int64.toInt_ofNat_of_lt (by omega)
  exact Timespec.eq_of_toInt_eq (hsec'.trans hsec.symm) (hnsec'.trans hnsec.symm)

/-! ## Splitting -/

/-- A time in seconds and nanoseconds is the split form of a count of nanoseconds. -/
structure Timespec.Splits (time : Timespec) (nanos : UInt64) : Prop where
  normalized : time.IsNormalized
  nonneg : 0 ≤ time.sec.toInt
  eq_ofNanos : time = .ofNanos nanos
  nanos_eq : time.nanos = nanos

/-- The answers in both shapes are one time, or one error. -/
inductive SplitAgrees : Except ClockError UInt64 → Except ClockError Timespec → Prop
  | ok {nanos : UInt64} {time : Timespec} : time.Splits nanos → SplitAgrees (.ok nanos) (.ok time)
  | error (e : ClockError) : SplitAgrees (.error e) (.error e)

/-- A count of nanoseconds is split into its time. -/
theorem Clock.splitTimespec_splits (nanos : UInt64) : (splitTimespec nanos).Splits nanos := by
  obtain ⟨hproper, hnonneg, -⟩ := Timespec.exactNanos_ofNanos nanos
  rw [splitTimespec_eq_ofNanos]
  exact ⟨hproper, hnonneg, rfl, Timespec.nanos_ofNanos nanos⟩

/-- A proper time that a count of nanoseconds can hold is the split form of its total. -/
theorem Timeval.toTimespec_splits {time : Timeval} (hproper : time.IsNormalized)
    (hlow : 0 ≤ time.exactNanos) (hhigh : time.exactNanos ≤ 0xffffffffffffffff) :
    time.toTimespec.Splits time.nanos := by
  obtain ⟨hproper', hexact⟩ := exactNanos_toTimespec hproper
  obtain ⟨hproperOf, hnonneg, hexactOf⟩ := Timespec.exactNanos_ofNanos time.nanos
  -- both are proper, and have the total of the reading
  have heq : time.toTimespec = .ofNanos time.nanos := by
    refine Timespec.eq_of_exactNanos_eq hproper' hproperOf ?_
    rw [hexact, hexactOf, toNat_nanos hlow hhigh]
  exact ⟨hproper', by rwa [heq], heq, by rw [heq, Timespec.nanos_ofNanos]⟩

variable {σ τ : Type}

namespace Clock

/-- The wall time that a machine shows, if it shows one, is proper and fits a count of nanoseconds.
-/
def WallFitsNanos (m : Machine σ) (s : σ) : Prop :=
  ∀ time, (m.wall s).1 = .ok time →
    time.IsNormalized ∧ 0 ≤ time.exactNanos ∧ time.exactNanos ≤ 0xffffffffffffffff

/-- From one state of a clock and a machine the two queries give the same time and lead to the same
state. -/
theorem querySplit_splits (m : Machine σ) (c : Clock) (s : σ) {id : ClockId}
    (hwall : id = .realtime → WallFitsNanos m s) :
    SplitAgrees (c.queryNanos m id s).1 (c.querySplit m id s).1 ∧
      (c.querySplit m id s).2 = (c.queryNanos m id s).2 := by
  by_cases hid : id = .realtime
  · subst hid
    refine ⟨?_, rfl⟩
    show SplitAgrees ((m.wall s).1.map Timeval.nanos) ((m.wall s).1.map Timeval.toTimespec)
    cases hanswer : (m.wall s).1 with
    | error e => exact .error e
    | ok time =>
      obtain ⟨hproper, hlow, hhigh⟩ := hwall rfl time hanswer
      exact .ok (Timeval.toTimespec_splits hproper hlow hhigh)
  · -- any other clock is asked for its count, which is then split
    rcases hquery : c.queryNanos m id s with ⟨answer, c', t⟩
    rw [querySplit_of_queryNanos hid hquery]
    refine ⟨?_, rfl⟩
    cases answer with
    | error e => exact .error e
    | ok nanos => exact .ok (splitTimespec_splits nanos)

/-- The two queries of a clock agree, also on two machines as long as these answer alike: both give
the same error, or the time of one is that of the other in its split form, and they lead to the same
clock and to machines that answer alike again. For the wall clock the reading has to be one that a
count of nanoseconds can hold. -/
theorem querySplit_agrees {m : Machine σ} {n : Machine τ} {R : σ → τ → Prop}
    (hagree : m.ReadsAgree n R) (c : Clock) {s : σ} {t : τ} (hst : R s t) (id : ClockId)
    (hwall : id = .realtime → WallFitsNanos m s) :
    SplitAgrees (c.queryNanos m id s).1 (c.querySplit n id t).1 ∧
      Agree R (c.queryNanos m id s).2 (c.querySplit n id t).2 := by
  obtain ⟨hsplits, hsame⟩ := querySplit_splits m c s hwall
  obtain ⟨hanswer, hstate⟩ := hagree.querySplit id c hst
  rw [hanswer] at hsplits
  rw [hsame] at hstate
  exact ⟨hsplits, hstate⟩

/-- A machine at the last moment that a count of nanoseconds can hold, to the microsecond for its
wall clock. -/
def lastMoment : Script where
  wall := [.ok ⟨18446744073, 709551⟩]
  scale := [.ok .identity]
  ticks := [0xffffffffffffffff]

/-- At the last moment the queries agree on the largest count there is, and on the wall time,
whether or not the machine keeps a record. -/
theorem lastMoment_agrees :
    WallFitsNanos (Script.machine false).recorded (lastMoment, []) ∧
      SplitAgrees
        (untouched.queryNanos (Script.machine false).recorded .realtime (lastMoment, [])).1
        (untouched.querySplit (Script.machine false) .realtime lastMoment).1 ∧
      SplitAgrees
        (untouched.queryNanos (Script.machine false).recorded .uptimeRaw (lastMoment, [])).1
        (untouched.querySplit (Script.machine false) .uptimeRaw lastMoment).1 ∧
      (untouched.queryNanos (Script.machine false).recorded .uptimeRaw (lastMoment, [])).1 =
        .ok 0xffffffffffffffff ∧
      (untouched.querySplit (Script.machine false) .uptimeRaw lastMoment).1 =
        .ok ⟨18446744073, 709551615⟩ := by
  have hwall : WallFitsNanos (Script.machine false).recorded (lastMoment, []) := by
    intro time htime
    cases htime
    decide
  have hagree := (Script.machine false).recorded_agrees.toReadsAgree
  refine ⟨hwall, ?_, ?_, by decide +kernel, by decide +kernel⟩
  · exact (querySplit_agrees hagree untouched rfl .realtime fun _ => hwall).1
  · exact (querySplit_agrees hagree untouched rfl .uptimeRaw fun _ => hwall).1

/-! ## The order of readings -/

/-- How far counts of nanoseconds are exact totals, clamped, and follow the order of times. -/
structure FollowsTotals (m : Machine σ) : Prop where
  /-- A time before the epoch with a fraction counts as its fraction, and no other proper time in
  seconds and nanoseconds is off. -/
  timespec : ∀ time : Timespec, time.IsNormalized →
    (time.nanos.toNat = clampTotal time.exactNanos ↔
      (time.sec.toInt < 0 → time.nsec.toInt = 0))
  /-- A time that is too large counts as nothing, and no other proper time in seconds and
  microseconds is off. -/
  timeval : ∀ time : Timeval, time.IsNormalized →
    (time.nanos.toNat = clampTotal time.exactNanos ↔ time.exactNanos ≤ 0xffffffffffffffff)
  /-- The two shapes of a time have the same total exactly where neither is off. -/
  shapes : ∀ time : Timeval, time.IsNormalized →
    (time.toTimespec.nanos = time.nanos ↔
      (time.sec.toInt < 0 → time.usec.toInt = 0) ∧ time.exactNanos ≤ 0xffffffffffffffff)
  /-- Later times have no smaller totals, if the earlier one is not off. -/
  timespec_mono : ∀ time later : Timespec, time.IsNormalized → later.IsNormalized →
    time.ClampsTotal → time ≤ later → time.nanos ≤ later.nanos
  /-- Later times have no smaller totals, if the later one is not off. -/
  timeval_mono : ∀ time later : Timeval, time.IsNormalized → later.IsNormalized →
    later.ClampsTotal → time ≤ later → time.nanos ≤ later.nanos
  /-- A later reading of the wall clock is no smaller count, if it is not too large. -/
  realtime : ∀ (c c' : Clock) (s t : σ) (time later : Timeval), (m.wall s).1 = .ok time →
    (m.wall t).1 = .ok later → time.IsNormalized → later.IsNormalized → time ≤ later →
    later.exactNanos ≤ 0xffffffffffffffff →
    ∃ nanos nanos', (c.queryNanos m .realtime s).1 = .ok nanos ∧
      (c'.queryNanos m .realtime t).1 = .ok nanos' ∧ nanos ≤ nanos'

/-- The count of nanoseconds that the wall clock shows is the total of the machine's reading. -/
theorem queryNanos_realtime {m : Machine σ} {s : σ} {time : Timeval}
    (hread : (m.wall s).1 = .ok time) (c : Clock) :
    (c.queryNanos m .realtime s).1 = .ok time.nanos := by
  show (m.wall s).1.map Timeval.nanos = _
  rw [hread]
  rfl

/-- On every machine counts of nanoseconds follow the exact totals, but for times before the epoch
with a fraction and for times that are too large. -/
theorem realtime_followsTotals (m : Machine σ) : FollowsTotals m where
  timespec _ hproper := Timespec.clampsTotal_iff hproper
  timeval _ _ := Timeval.clampsTotal_iff
  shapes time hproper := by
    have hproper' := (Timeval.exactNanos_toTimespec hproper).1
    have hnsec := Timeval.nsec_toTimespec hproper.1 hproper.2
    rw [Timeval.nanos_toTimespec_iff hproper, Timespec.clampsTotal_iff hproper',
      Timeval.clampsTotal_iff, hnsec]
    show (time.sec.toInt < 0 → _) ∧ _ ↔ _
    omega
  timespec_mono _ _ hproper hproper' hclamps hle :=
    Timespec.nanos_le_nanos hproper hproper' hclamps hle
  timeval_mono _ _ hproper hproper' hclamps hle :=
    Timeval.nanos_le_nanos hproper hproper' hclamps hle
  realtime c c' s t time later hread hread' hproper hproper' hle hhigh :=
    ⟨time.nanos, later.nanos, queryNanos_realtime hread c, queryNanos_realtime hread' c',
      Timeval.nanos_le_nanos hproper hproper' (Timeval.clampsTotal_iff.mpr hhigh) hle⟩

/-- A reading before the epoch with a fraction, and one at the last moment. -/
theorem lastMoment_followsTotals :
    ((Script.machine false).wall { wall := [.ok ⟨-1, 500000⟩] }).1 = .ok ⟨-1, 500000⟩ ∧
      ((Script.machine false).wall lastMoment).1 = .ok ⟨18446744073, 709551⟩ ∧
      (⟨-1, 500000⟩ : Timeval) ≤ ⟨18446744073, 709551⟩ ∧
      (⟨18446744073, 709551⟩ : Timeval).exactNanos ≤ 0xffffffffffffffff ∧
      ∃ nanos nanos',
        (untouched.queryNanos (Script.machine false) .realtime { wall := [.ok ⟨-1, 500000⟩] }).1 =
          .ok nanos ∧
        (untouched.queryNanos (Script.machine false) .realtime lastMoment).1 = .ok nanos' ∧
        nanos ≤ nanos' := by
  have hle : (⟨-1, 500000⟩ : Timeval) ≤ ⟨18446744073, 709551⟩ := by decide
  have hhigh : (⟨18446744073, 709551⟩ : Timeval).exactNanos ≤ 0xffffffffffffffff := by decide
  have hfollows : FollowsTotals (Script.machine false) := realtime_followsTotals _
  exact ⟨rfl, rfl, hle, hhigh,
    hfollows.realtime untouched untouched _ _ _ _ rfl rfl (by decide) (by decide) hle hhigh⟩

/-- Half a second before the epoch counts as half a second, more than the epoch itself. The first
second that does not fit counts as nothing, less than the moment before it, and so the wall clock
goes back there. -/
theorem totals_notClamped :
    ((⟨-1, 500000000⟩ : Timespec).IsNormalized ∧
        (⟨-1, 500000000⟩ : Timespec).exactNanos = -500000000 ∧
        (⟨-1, 500000000⟩ : Timespec).nanos = 500000000 ∧
        (⟨-1, 500000000⟩ : Timespec) ≤ ⟨0, 0⟩ ∧ (⟨0, 0⟩ : Timespec).nanos = 0) ∧
      ((⟨18446744074, 0⟩ : Timeval).IsNormalized ∧
        (⟨18446744074, 0⟩ : Timeval).exactNanos = 18446744074000000000 ∧
        (⟨18446744074, 0⟩ : Timeval).nanos = 0 ∧
        (⟨18446744073, 709551⟩ : Timeval) ≤ ⟨18446744074, 0⟩ ∧
        (untouched.queryNanos (Script.machine false) .realtime lastMoment).1 =
          .ok 18446744073709551000 ∧
        (untouched.queryNanos (Script.machine false) .realtime
            { wall := [.ok ⟨18446744074, 0⟩] }).1 = .ok 0) := by
  decide +kernel

end Clock

end SoftClock
