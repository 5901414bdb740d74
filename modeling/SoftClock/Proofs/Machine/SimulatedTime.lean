import SoftClock.Machine.Simulated
import SoftClock.Proofs.Machine.Recorded
import SoftClock.Proofs.Word.Clamp
import Mathlib.Data.Int.Notation

/-!
# Time on a Simulated Machine

What a simulated machine does over time, as a step relation and as invariants.

* `SimulatedAction` lists everything that can be done to the machine from outside, and
  `Simulated.act` does it. Actions that keep the wall clock (`SimulatedAction.keepsWall`) lead to a
  later moment of the machine (`Later.act`), at which it is undisturbed still (`Undisturbed.later`):
  the wall clock was never set, and the reported boot time is off by a fixed skew.
* Reads move nothing but the counter (`Simulated.reads_eq`).
* `MachineRecord.ticksCounted` is the counter of a recorded call as a number. It is the sum that a
  read forms before it is cut to a word, so it bounds the counter over time: a counter that wrapped
  would have been counted past every word.
-/

namespace SoftClock

/-- Something done to a simulated machine from outside: a control is used, or a time source is read
or set. -/
inductive SimulatedAction where
  | advance (elapsed : Duration)
  | sleep (span : Duration)
  | setStep (step : UInt64)
  | setBootSkew (skew : Int64)
  | truncateBoot
  | bumpBoot (reads : UInt32)
  | freezeWall (frozen : Bool)
  | failWallReads (fail : Bool)
  | failWallWrites (fail : Bool)
  | failBootReads (fail : Bool)
  | failScale (fail : Bool)
  | setCpu (process thread : Timeval)
  | readWall
  | writeWall (time : Timeval)
  | readTicks
  | readCoarseTicks
  | readScale
  | readBoot
  deriving DecidableEq, Repr

namespace SimulatedAction

/-- The action neither sets the wall clock nor changes the reported boot time. -/
def keepsWall : SimulatedAction → Bool
  | .setBootSkew _ | .truncateBoot | .bumpBoot _ | .writeWall _ => false
  | _ => true

/-- The action lets time asleep pass. -/
def isSleep : SimulatedAction → Bool
  | .sleep _ => true
  | _ => false

/-- The action keeps the wall clock, and the machine stays awake. -/
def staysAwake (action : SimulatedAction) : Bool := action.keepsWall && !action.isSleep

/-- Staying awake, part by part. -/
theorem staysAwake_iff (action : SimulatedAction) :
    action.staysAwake ↔ action.keepsWall ∧ action.isSleep = false := by
  simp [staysAwake]

end SimulatedAction

namespace Simulated

/-- The machine after an action. -/
def act : SimulatedAction → Simulated → Simulated
  | .advance elapsed => advance elapsed
  | .sleep span => sleep span
  | .setStep step => setStep step
  | .setBootSkew skew => setBootSkew skew
  | .truncateBoot => truncateBoot
  | .bumpBoot reads => bumpBoot reads
  | .freezeWall frozen => freezeWall frozen
  | .failWallReads fail => failWallReads fail
  | .failWallWrites fail => failWallWrites fail
  | .failBootReads fail => failBootReads fail
  | .failScale fail => failScale fail
  | .setCpu process thread => setCpu process thread
  | .readWall => fun s => (readWall s).2
  | .writeWall time => fun s => (writeWall time s).2
  | .readTicks => fun s => (readTicks s).2
  | .readCoarseTicks => fun s => (readCoarseTicks s).2
  | .readScale => fun s => (readScale s).2
  | .readBoot => fun s => (readBoot s).2

/-! ## Reads move the counter only -/

section Reads

variable {s t : Simulated}

/-- A read of a machine whose boot time stands still changes nothing but the counter. -/
theorem read_eq (hread : machine.Read s t) (hbumps : s.bootBumps = 0) :
    ∃ counter, t = { s with counter } := by
  cases hread with
  | wall =>
    refine ⟨s.stepped.counter, ?_⟩
    simp only [machine, readWall]
    split <;> rfl
  | ticks => exact ⟨s.stepped.counter, rfl⟩
  | approxTicks => exact ⟨s.counter, rfl⟩
  | scale =>
    refine ⟨s.counter, ?_⟩
    simp only [machine, readScale]
    split <;> rfl
  | boot =>
    refine ⟨s.counter, ?_⟩
    simp only [machine, readBoot]
    rw [if_pos hbumps]
    split <;> rfl
  | processCpu => exact ⟨s.counter, rfl⟩
  | threadCpu => exact ⟨s.counter, rfl⟩

/-- Any number of reads change nothing but the counter. -/
theorem reads_eq (hreads : machine.Reads s t) (hbumps : s.bootBumps = 0) :
    ∃ counter, t = { s with counter } := by
  refine hreads.keeps (P := fun t => ∃ counter, t = { s with counter }) ?_ ⟨s.counter, rfl⟩
  rintro _ u hread ⟨counter, rfl⟩
  obtain ⟨counter', rfl⟩ := read_eq hread hbumps
  exact ⟨counter', rfl⟩

end Reads

/-! ## Machines with an undisturbed wall clock -/

/-- A later moment of a machine whose wall clock was kept: its settings of time are the same, and it
may have slept. -/
structure Later (s t : Simulated) : Prop where
  scale_eq : t.scale = s.scale
  wallShift_eq : t.wallShift = s.wallShift
  bootReport_eq : t.bootReport = s.bootReport
  bootBumps_eq : t.bootBumps = s.bootBumps
  slept_le : s.slept ≤ t.slept

/-- Only the counter moves on. -/
theorem Later.counter (s : Simulated) (counter : UInt64) : Later s { s with counter } :=
  ⟨rfl, rfl, rfl, rfl, UInt64.le_refl _⟩

/-- Sleep adds to the time asleep, up to the largest word. -/
theorem Later.sleep (span : Duration) (s : Simulated) : Later s (s.sleep span) := by
  refine ⟨rfl, rfl, rfl, rfl, ?_⟩
  have hlt := s.slept.toNat_lt
  rw [UInt64.le_iff_toNat_le, Simulated.sleep, toNat_ofNatClamp]
  omega

/-- Actions that keep the wall clock lead to a later moment. -/
theorem Later.act {s : Simulated} (hbumps : s.bootBumps = 0) {action : SimulatedAction}
    (hkeeps : action.keepsWall) : Later s (act action s) := by
  -- reads that come from outside are reads all the same
  have hread {t : Simulated} (hread : machine.Read s t) : Later s t := by
    obtain ⟨counter, rfl⟩ := read_eq hread hbumps
    exact .counter s counter
  cases action with
  | setBootSkew skew => cases hkeeps
  | truncateBoot => cases hkeeps
  | bumpBoot reads => cases hkeeps
  | writeWall time => cases hkeeps
  | sleep span => exact .sleep span s
  | advance elapsed => exact .counter s _
  | readWall => exact hread (.wall s)
  | readTicks => exact hread (.ticks s)
  | readCoarseTicks => exact .counter s _
  | readScale => exact hread (.scale s)
  | readBoot => exact hread (.boot s)
  | _ => exact ⟨rfl, rfl, rfl, rfl, UInt64.le_refl _⟩

/-- Actions that stay awake add no time asleep. -/
theorem slept_act {s : Simulated} (hbumps : s.bootBumps = 0) {action : SimulatedAction}
    (hawake : action.staysAwake) : (act action s).slept = s.slept := by
  have hread {t : Simulated} (hread : machine.Read s t) : t.slept = s.slept := by
    obtain ⟨counter, rfl⟩ := read_eq hread hbumps
    rfl
  obtain ⟨hkeeps, hsleep⟩ := action.staysAwake_iff.mp hawake
  cases action with
  | sleep span => cases hsleep
  | writeWall time => cases hkeeps
  | readWall => exact hread (.wall s)
  | readScale => exact hread (.scale s)
  | readBoot => exact hread (.boot s)
  | _ => rfl

/-- The wall clock was never set, and the reported boot time is off by `skew` and stands still. -/
structure Undisturbed (scale : Scale) (skew : ℤ) (s : Simulated) : Prop where
  scale_eq : s.scale = scale
  wallShift_eq : s.wallShift = 0
  bootReport_eq : s.bootReport = .ofExactNanos (bootWall + skew)
  bootBumps_eq : s.bootBumps = 0

/-- A new machine reports its boot time as it is. -/
theorem undisturbed_withScale (scale : Scale) : Undisturbed scale 0 (withScale scale) := by
  refine ⟨rfl, rfl, ?_, rfl⟩
  rw [Int.add_zero]
  rfl

/-- A skew replaces the one before. -/
theorem Undisturbed.setBootSkew {scale : Scale} {skew : ℤ} {s : Simulated}
    (h : Undisturbed scale skew s) (skew' : Int64) :
    Undisturbed scale skew'.toInt (s.setBootSkew skew') :=
  ⟨h.scale_eq, h.wallShift_eq, rfl, h.bootBumps_eq⟩

/-- A later moment is undisturbed too. -/
theorem Undisturbed.later {scale : Scale} {skew : ℤ} {s t : Simulated}
    (h : Undisturbed scale skew s) (hlater : Later s t) : Undisturbed scale skew t where
  scale_eq := hlater.scale_eq.trans h.scale_eq
  wallShift_eq := hlater.wallShift_eq.trans h.wallShift_eq
  bootReport_eq := hlater.bootReport_eq.trans h.bootReport_eq
  bootBumps_eq := hlater.bootBumps_eq.trans h.bootBumps_eq

/-- Reads leave the machine undisturbed. -/
theorem Undisturbed.reads {scale : Scale} {skew : ℤ} {s t : Simulated}
    (h : Undisturbed scale skew s) (hreads : machine.Reads s t) : Undisturbed scale skew t := by
  obtain ⟨counter, rfl⟩ := reads_eq hreads h.bootBumps_eq
  exact h.later (.counter s counter)

/-- Reads add no time asleep. -/
theorem Undisturbed.slept_reads {scale : Scale} {skew : ℤ} {s t : Simulated}
    (h : Undisturbed scale skew s) (hreads : machine.Reads s t) : t.slept = s.slept := by
  obtain ⟨counter, rfl⟩ := reads_eq hreads h.bootBumps_eq
  rfl

end Simulated

/-- The counter at a recorded call as a number. Reads of the counter and of the wall clock count one
step more than the machine had before. -/
def MachineRecord.ticksCounted (record : MachineRecord Simulated) : ℕ :=
  match record.event with
  | .wall _ | .ticks _ => record.before.counter.toNat + record.before.step.toNat
  | _ => record.before.counter.toNat

end SoftClock
