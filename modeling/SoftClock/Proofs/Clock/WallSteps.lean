import SoftClock.Proofs.Clock.Run
import SoftClock.Proofs.Machine.SimulatedTime
import SoftClock.Proofs.Time.Exact

/-!
# Setting the Wall Clock

Setting the wall clock of a simulated machine is exact, and is not mistaken for sleep.

A setting shifts the wall clock by the exact amount that makes it show the new time, and shifts the
reported boot time along. Only the boot time is rounded down to a microsecond, so each setting makes
the wall time since boot longer by less than a microsecond (`Simulated.surplus_setWall`), however
far the wall clock is stepped. Nothing else that can be done to the machine makes a difference
(`ClockRun.step_wall`), so over a run the surplus is at most 999 nanoseconds for each setting
(`ClockRun.surplus_run`).

* `Simulated.surplus` is the wall time since boot that is neither time awake nor time asleep.
* `ClockRun.wallWrites` are the settings of the wall clock that succeed in a run.
* `Simulated.SetsExactly` says what a setting does and what a read after it shows.
-/

namespace SoftClock

/-! ## What sets the wall clock -/

/-- The action does not change the reported boot time otherwise than by setting the wall clock. -/
def SimulatedAction.keepsBoot : SimulatedAction → Bool
  | .setBootSkew _ | .truncateBoot | .bumpBoot _ => false
  | _ => true

/-- A setting of the wall clock, with the machine on which it is made. -/
structure WallWrite where
  machine : Simulated
  value : Timeval

namespace ClockStep

/-- The step does not change the reported boot time otherwise than by setting the wall clock. -/
def keepsBoot : ClockStep SimulatedAction → Bool
  | .environment action => action.keepsBoot
  | _ => true

/-- The value that a step asks the machine to set the wall clock to. -/
def wallValue? : ClockStep SimulatedAction → Option Timeval
  | .environment (.writeWall value) => some value
  | .setTime .realtime time => if time.IsNormalized then some (.ofTimespec time) else none
  | _ => none

/-- The setting of the wall clock that a step makes, if it succeeds. -/
def wallWrite? (step : ClockStep SimulatedAction) (s : Simulated) : Option WallWrite :=
  match step.wallValue? with
  | none => none
  | some value => if (Simulated.machine.setWall value s).1.isOk then some ⟨s, value⟩ else none

/-- The step is an operation of the clock that does not set it. -/
def isRead {ε : Type} : ClockStep ε → Bool
  | .environment _ | .setTime _ _ => false
  | _ => true

end ClockStep

namespace Simulated

/-- Wall time since the reported boot time, less the time awake and the time asleep. -/
def surplus (s : Simulated) : ℤ :=
  (s.wallNanosAt s.counter - s.bootReport.exactNanos) -
    ((nanosOfTicks s.scale s.counter).toNat + s.slept.toNat)

/-- The boot time that setting the wall clock comes to, before it is rounded. -/
def bootMoved (value : Timeval) (s : Simulated) : ℤ :=
  s.bootReport.exactNanos + (value.exactNanos - s.wallNanosAt s.counter)

/-- The surplus does not depend on how much time has passed. -/
theorem surplus_eq (s : Simulated) :
    s.surplus = bootWall + s.wallShift - s.bootReport.exactNanos := by
  unfold surplus wallNanosAt
  omega

/-- A new machine has no surplus. -/
theorem surplus_withScale (scale : Scale) : (withScale scale).surplus = 0 := by
  rw [surplus_eq]
  show bootWall + 0 - (Timeval.ofExactNanos bootWall).exactNanos = 0
  decide

/-- A later moment has the same surplus. -/
theorem Later.surplus_eq {s t : Simulated} (hlater : Later s t) : t.surplus = s.surplus := by
  rw [Simulated.surplus_eq, Simulated.surplus_eq, hlater.wallShift_eq, hlater.bootReport_eq]

/-- A setting that succeeds makes the wall clock show the value, and changes nothing but the shift
of the wall clock, the boot time and the list of settings. -/
theorem setWall_ok {s t : Simulated} {value : Timeval}
    (hset : machine.setWall value s = (.ok (), t)) : t = { s with
      wallShift := s.wallShift + (value.exactNanos - s.wallNanosAt s.counter)
      bootReport := .ofExactNanos (bootMoved value s)
      wallWrites := s.wallWrites ++ [value] } := by
  simp only [machine, writeWall] at hset
  split at hset <;> cases hset
  rfl

/-- A setting that fails changes nothing. -/
theorem setWall_error {s t : Simulated} {value : Timeval} {error : ClockError}
    (hset : machine.setWall value s = (.error error, t)) : t = s := by
  simp only [machine, writeWall] at hset
  split at hset <;> cases hset
  rfl

/-- Right after a setting the wall clock is at its value, exactly. -/
theorem wallNanosAt_setWall {s t : Simulated} {value : Timeval}
    (hset : machine.setWall value s = (.ok (), t)) :
    t.wallNanosAt t.counter = value.exactNanos := by
  rw [setWall_ok hset]
  unfold wallNanosAt
  dsimp only
  omega

/-- A setting adds to the surplus what rounding takes from the boot time. -/
theorem surplus_setWall {s t : Simulated} {value : Timeval}
    (hset : machine.setWall value s = (.ok (), t)) (hfits : FitsSeconds (bootMoved value s)) :
    s.surplus ≤ t.surplus ∧ t.surplus ≤ s.surplus + 999 := by
  have hfloor := microFloor_bounds (bootMoved value s)
  rw [surplus_eq, surplus_eq, setWall_ok hset, Timeval.exactNanos_of_fitsSeconds hfits]
  unfold bootMoved at hfloor ⊢
  dsimp only
  omega

/-! ## Reading a clock that was set -/

/-- The exact wall time at the first read after the wall clock was set to a time. -/
def wallAfter (time : Timespec) (s : Simulated) : ℤ :=
  microFloor time.exactNanos + (nanosOfTicks s.scale (s.counter + s.step)).toNat -
    (nanosOfTicks s.scale s.counter).toNat

/-- What setting a clock of a machine does. -/
structure SetsExactly (c : Clock) (s : Simulated) : Prop where
  /-- After a setting the exact wall time is the time that was set, truncated to microseconds. -/
  wall : ∀ time t, Clock.setTime machine .realtime time s = (.ok (), t) →
    t.wallNanosAt t.counter = microFloor time.exactNanos
  /-- The first read after a setting shows the step of the counter on top of that, to the
  microsecond, and in nanoseconds too as long as they can be counted in 64 bits. -/
  read : ∀ time t, Clock.setTime machine .realtime time s = (.ok (), t) →
    s.frozenWall = none → s.wallReadsFail = false → FitsSeconds (s.wallAfter time) →
      (∃ answer, (c.querySplit machine .realtime t).1 = .ok answer ∧ answer.IsNormalized ∧
        answer.exactNanos = microFloor (s.wallAfter time)) ∧
      ∃ answer, (c.queryNanos machine .realtime t).1 = .ok answer ∧
        (0 ≤ s.wallAfter time → s.wallAfter time ≤ 0xffffffffffffffff →
          (answer.toNat : ℤ) = microFloor (s.wallAfter time))
  /-- A clock that cannot be set leaves the machine as it was. -/
  refused : ∀ id time error t, Clock.setTime machine id time s = (.error error, t) → t = s
  /-- A setting of the wall clock that fails leaves the machine as it was. -/
  failed : ∀ value error t, machine.setWall value s = (.error error, t) → t = s

/-- Setting a clock succeeds only by a setting of the wall clock to a proper time. -/
theorem setTime_ok {id : ClockId} {s t : Simulated} {time : Timespec}
    (hset : Clock.setTime machine id time s = (.ok (), t)) :
    time.IsNormalized ∧ machine.setWall (.ofTimespec time) s = (.ok (), t) := by
  unfold Clock.setTime at hset
  split at hset
  · split at hset
    · exact ⟨‹_›, hset⟩
    · cases hset
  · cases hset

/-- A clock that cannot be set leaves the machine as it was. -/
theorem setTime_error {id : ClockId} {s t : Simulated} {time : Timespec} {error : ClockError}
    (hset : Clock.setTime machine id time s = (.error error, t)) : t = s := by
  unfold Clock.setTime at hset
  split at hset
  · split at hset
    · exact setWall_error hset
    · cases hset
      rfl
  · cases hset
    rfl

/-- What the wall clock shows at the first read after a setting. -/
theorem readWall_after {s t : Simulated} {time : Timespec}
    (hset : Clock.setTime machine .realtime time s = (.ok (), t)) (hfrozen : s.frozenWall = none)
    (hreads : s.wallReadsFail = false) :
    (machine.wall t).1 = .ok (.ofExactNanos (s.wallAfter time)) := by
  obtain ⟨hproper, hset⟩ := setTime_ok hset
  have hmoved : t.wallNanosAt t.stepped.counter = s.wallAfter time := by
    have hexact := Timeval.exactNanos_ofTimespec hproper
    rw [setWall_ok hset]
    unfold wallNanosAt wallAfter stepped
    dsimp only
    omega
  have hshown : (machine.wall t).1 = .ok (.ofExactNanos (t.wallNanosAt t.stepped.counter)) := by
    have hstate := setWall_ok hset
    subst hstate
    simp [machine, readWall, stepped, hfrozen, hreads]
    rfl
  rw [hshown, hmoved]

/-- Setting a clock is exact. -/
theorem setsExactly (c : Clock) (s : Simulated) : SetsExactly c s where
  wall time t hset := by
    obtain ⟨hproper, hset⟩ := setTime_ok hset
    rw [wallNanosAt_setWall hset, Timeval.exactNanos_ofTimespec hproper]
  read time t hset hfrozen hreads hfits := by
    -- the wall clock shows the time that was set, moved on by what has passed since
    have hread := readWall_after hset hfrozen hreads
    obtain ⟨hproper, hexact⟩ := Timeval.toTimespec_ofExactNanos hfits
    constructor
    · refine ⟨_, ?_, hproper, hexact⟩
      rw [Clock.querySplit, if_pos rfl]
      show (machine.wall t).1.map _ = _
      rw [hread]
      rfl
    · refine ⟨(Timeval.ofExactNanos (s.wallAfter time)).nanos, ?_, ?_⟩
      · show (machine.wall t).1.map _ = _
        rw [hread]
        rfl
      · intro hlow hhigh
        have htotal := Timeval.exactNanos_of_fitsSeconds hfits
        have hbounds := microFloor_bounds (s.wallAfter time)
        have hfloor : 0 ≤ microFloor (s.wallAfter time) := by
          unfold microFloor
          omega
        rw [Timeval.toNat_nanos (by omega) (by omega), htotal]
  refused _ _ _ _ hset := setTime_error hset
  failed _ _ _ hset := setWall_error hset

end Simulated

/-! ## Runs -/

namespace ClockRun

section Reads

variable {σ ε : Type} {m : Machine σ} {act : ε → σ → σ}

/-- The operations that do not set a clock only read the machine. -/
theorem step_reads (run : ClockRun σ) {step : ClockStep ε} (hread : step.isRead) :
    m.Reads run.state (run.step m act step).state := by
  have hchange := step_change m act run step
  generalize run.step m act step = run' at hchange
  cases hchange with
  | environment action => cases hread
  | timeSet hset => cases hread
  | invalidated => exact .refl _
  | other hadvanced hreads => exact hadvanced.reads.trans hreads
  | monotonic hadvanced hticks => exact hadvanced.reads.trans (.of_ticks hticks)
  | continuous hadvanced hticks => exact hadvanced.reads.trans (.of_ticks hticks)
  | approx hadvanced hticks => exact hadvanced.reads.trans (.of_approxTicks hticks)

end Reads

open Simulated

/-- The settings of the wall clock that succeed in a run, the first one first. -/
def wallWrites (run : ClockRun Simulated) : List (ClockStep SimulatedAction) → List WallWrite
  | [] => []
  | step :: steps =>
    (step.wallWrite? run.state).toList ++ wallWrites (run.step machine act step) steps

/-- A step that asks for a setting leaves the machine as the setting does. -/
theorem step_of_wallValue (run : ClockRun Simulated) {step : ClockStep SimulatedAction}
    {value : Timeval} (hvalue : step.wallValue? = some value) :
    (run.step machine act step).state = (machine.setWall value run.state).2 := by
  unfold ClockStep.wallValue? at hvalue
  split at hvalue
  · cases hvalue
    rfl
  · split at hvalue <;> cases hvalue
    rename_i hproper
    simp only [ClockRun.step, ClockStep.perform, Clock.setTime, if_pos hproper, if_true]
  · cases hvalue

/-- A step that asks for no setting leads to a later moment of the machine. -/
theorem step_of_no_wallValue (run : ClockRun Simulated) {step : ClockStep SimulatedAction}
    (hkeeps : step.keepsBoot) (hbumps : run.state.bootBumps = 0) (hvalue : step.wallValue? = none) :
    Later run.state (run.step machine act step).state := by
  have hread (hread : step.isRead) : Later run.state (run.step machine act step).state := by
    obtain ⟨counter, hstate⟩ := reads_eq (run.step_reads hread) hbumps
    rw [hstate]
    exact .counter run.state counter
  cases step with
  | environment action =>
    refine Later.act hbumps ?_
    cases action with
    | setBootSkew _ | truncateBoot | bumpBoot _ => cases hkeeps
    | writeWall _ => cases hvalue
    | _ => rfl
  | setTime id time =>
    -- a setting that the machine is not asked for is refused
    have hrefused : (Clock.setTime machine id time run.state).2 = run.state := by
      unfold Clock.setTime
      split
      · rename_i hid
        subst hid
        rw [ClockStep.wallValue?] at hvalue
        split at hvalue
        · cases hvalue
        · rename_i hproper
          rw [if_neg hproper]
      · rfl
    show Later run.state (Clock.setTime machine id time run.state).2
    rw [hrefused]
    exact .counter run.state run.state.counter
  | _ => exact hread rfl

/-- What a step does to the wall clock: it sets it, or leads to a later moment of the machine. -/
theorem step_wall (run : ClockRun Simulated) {step : ClockStep SimulatedAction}
    (hkeeps : step.keepsBoot) (hbumps : run.state.bootBumps = 0) :
    (step.wallWrite? run.state = none ∧
        Later run.state (run.step machine act step).state) ∨
      ∃ value, step.wallWrite? run.state = some ⟨run.state, value⟩ ∧
        machine.setWall value run.state = (.ok (), (run.step machine act step).state) := by
  unfold ClockStep.wallWrite?
  cases hvalue : step.wallValue? with
  | none => exact .inl ⟨rfl, run.step_of_no_wallValue hkeeps hbumps hvalue⟩
  | some value =>
    rw [run.step_of_wallValue hvalue]
    rcases hset : machine.setWall value run.state with ⟨error | _, t⟩
    · refine .inl ⟨by simp [hset, Except.isOk, Except.toBool], ?_⟩
      rw [setWall_error hset]
      exact .counter run.state run.state.counter
    · exact .inr ⟨value, by simp [hset, Except.isOk, Except.toBool], hset⟩

/-- Over a run the surplus grows by less than a microsecond for each setting of the wall clock. -/
theorem surplus_run (run : ClockRun Simulated) (steps : List (ClockStep SimulatedAction))
    (hkeeps : ∀ step ∈ steps, step.keepsBoot) (hbumps : run.state.bootBumps = 0)
    (hfits : ∀ write ∈ run.wallWrites steps, FitsSeconds (bootMoved write.value write.machine)) :
    run.state.surplus ≤ (run.run machine act steps).state.surplus ∧
      (run.run machine act steps).state.surplus ≤
        run.state.surplus + 999 * (run.wallWrites steps).length := by
  induction steps generalizing run with
  | nil => simp [ClockRun.run, wallWrites]
  | cons step steps ih =>
    rw [wallWrites] at hfits ⊢
    have hstep := run.step_wall (hkeeps step List.mem_cons_self) hbumps
    have hnext (hbumps' : (run.step machine act step).state.bootBumps = 0) :=
      ih (run.step machine act step) (fun next hnext => hkeeps next (List.mem_cons_of_mem _ hnext))
        hbumps' fun write hwrite => hfits write (List.mem_append_right _ hwrite)
    rw [show run.run machine act (step :: steps) = (run.step machine act step).run machine act steps
      from rfl]
    -- a step that sets no time leaves the surplus; one that does is one of the writes, and adds less
    -- than a microsecond
    rcases hstep with ⟨hnone, hlater⟩ | ⟨value, hsome, hset⟩
    · obtain ⟨hlow, hhigh⟩ := hnext (hlater.bootBumps_eq.trans hbumps)
      rw [hlater.surplus_eq] at hlow hhigh
      rw [hnone]
      exact ⟨hlow, hhigh⟩
    · have hbumps' : (run.step machine act step).state.bootBumps = 0 := by
        rw [setWall_ok hset]
        exact hbumps
      have hmoved : FitsSeconds (bootMoved value run.state) := by
        refine hfits ⟨run.state, value⟩ (List.mem_append_left _ ?_)
        rw [hsome]
        exact List.mem_singleton_self _
      obtain ⟨hgrown, hless⟩ := surplus_setWall hset hmoved
      obtain ⟨hlow, hhigh⟩ := hnext hbumps'
      rw [hsome, Option.toList_some, List.singleton_append, List.length_cons]
      push_cast
      omega

/-- A run that starts with a clock that is there already. -/
def startingWith (c : Clock) (s : Simulated) : ClockRun Simulated := ⟨c, s, [], []⟩

/-- Building a clock is such a run: an estimate of a clock without one, if the settings ask for it.
-/
theorem start_eq_run (settings : Settings) (s : Simulated) :
    (start machine settings s).clock =
        ((startingWith ⟨settings, none, .new settings⟩ s).run machine act
          (if settings.eagerInit then [.refreshOffset] else [])).clock ∧
      (start machine settings s).state =
        ((startingWith ⟨settings, none, .new settings⟩ s).run machine act
          (if settings.eagerInit then [.refreshOffset] else [])).state := by
  cases heager : settings.eagerInit with
  | false => simp [start, Clock.withSettings, heager, ClockRun.run, startingWith]
  | true =>
    simp [start, Clock.withSettings, heager, ClockRun.run, startingWith, ClockRun.step,
      ClockStep.perform]

/-- Stepping the wall clock is exact and is not mistaken for sleep. Whatever is done to a new
machine and a clock on it, wall time since boot is time awake and asleep, to less than a microsecond
for each setting of the wall clock. What has to fit is the boot time that a setting comes to. -/
theorem wallSteps_exact (scale : Scale) (c : Clock) (steps : List (ClockStep SimulatedAction))
    (hkeeps : ∀ step ∈ steps, step.keepsBoot)
    (hfits : ∀ write ∈ (startingWith c (withScale scale)).wallWrites steps,
      FitsSeconds (bootMoved write.value write.machine)) :
    (0 ≤ ((startingWith c (withScale scale)).run machine act steps).state.surplus ∧
      ((startingWith c (withScale scale)).run machine act steps).state.surplus ≤
        999 * ((startingWith c (withScale scale)).wallWrites steps).length) ∧
      ∀ c s, SetsExactly c s := by
  have hrun := surplus_run (startingWith c (withScale scale)) steps hkeeps rfl hfits
  have hnew : (startingWith c (withScale scale)).state.surplus = 0 := surplus_withScale scale
  rw [hnew, Int.zero_add] at hrun
  exact ⟨hrun, setsExactly⟩

/-- The wall clock is set to a time before the epoch, the machine sleeps, a setting fails, and the
wall clock is set to a time far ahead. A last time is refused. -/
def settingSteps : List (ClockStep SimulatedAction) :=
  [.setTime .realtime ⟨-5, 123456789⟩, .environment (.sleep (.ofNanos 1500000000)),
    .environment (.failWallWrites true), .setTime .realtime ⟨7, 0⟩,
    .environment (.failWallWrites false), .nanos .monotonic,
    .environment (.writeWall ⟨4000000000, 7⟩), .setTime .realtime ⟨3, 1000000000⟩]

/-- On a 24 MHz machine two of the settings of `settingSteps` succeed, and the boot time loses less
than a microsecond to both together. -/
theorem settingSteps_exact :
    ((startingWith ⟨.brief, none, .new .brief⟩ (withScale .megahertz24)).wallWrites
        settingSteps).map WallWrite.value = [⟨-5, 123456⟩, ⟨4000000000, 7⟩] ∧
      ((startingWith ⟨.brief, none, .new .brief⟩ (withScale .megahertz24)).run machine act
        settingSteps).state.surplus = 667 ∧
      0 ≤ ((startingWith ⟨.brief, none, .new .brief⟩ (withScale .megahertz24)).run machine act
        settingSteps).state.surplus := by
  refine ⟨by decide +kernel, by decide +kernel, ?_⟩
  exact (wallSteps_exact .megahertz24 ⟨.brief, none, .new .brief⟩ settingSteps (by decide)
    (by decide +kernel)).1.1

end ClockRun

end SoftClock
