import SoftClock.Machine.Scripted
import SoftClock.Proofs.Offset.Failure
import SoftClock.Proofs.Offset.Transcript

/-!
# What an Estimate Is Made From

A completed refresh uses one pair of the last of its runs. The calls that it made show which one:
they are those of some runs in which the boot time moved, and then of one in which it stood still.

* `PairedSample.width` and `PairedSample.middle` are the bracket of a pair and its middle over the
  natural numbers, which the words of a pair never leave;
* `Estimator.refresh_ends` carries the ends of sampling over to a refresh;
* `Estimator.MadeFrom` says what the runs, the pair and the raw estimate have to do with each other,
  and `Estimator.refresh_madeFrom` that every completed refresh has this form.
-/

namespace SoftClock

variable {σ : Type} {m : Machine σ}

/-! ## Pairs in numeral form -/

namespace PairedSample

/-- Ticks between the two counter reads, none for a counter that went back. -/
def width (p : PairedSample) : ℕ := p.after.toNat - p.before.toNat

/-- The number of ticks in the middle of the two counter reads, rounded down. -/
def middle (p : PairedSample) : ℕ := p.before.toNat + p.width / 2

theorem toNat_bracket (p : PairedSample) : p.bracket.toNat = p.width := by
  have hafter := p.after.toNat_lt
  rw [bracket, UInt64.toNat_ofNat', width]
  exact Nat.mod_eq_of_lt (Nat.lt_of_le_of_lt (Nat.sub_le _ _) hafter)

/-- The middle lies between two words, so it is one itself. -/
theorem toNat_midpoint (p : PairedSample) : p.midpoint.toNat = p.middle := by
  have hbefore := p.before.toNat_lt
  have hafter := p.after.toNat_lt
  rw [midpoint, UInt64.toNat_add, UInt64.toNat_div, toNat_bracket, middle]
  change (p.before.toNat + p.width / 2) % 2 ^ 64 = _
  rw [Nat.mod_eq_of_lt]
  rw [width]
  omega

end PairedSample

/-- The raw estimate of a sample: the ticks of its elapsed time less its middle, which counts as the
largest signed word at most, and all of it within the signed words. -/
theorem BootSample.toInt_raw_eq (sample : BootSample) (ratio : Ratio) :
    (sample.raw ratio).toInt =
      max (-0x8000000000000000) (min
        ((ratio.signedNanosToTicks
            (sample.pair.wall.exactNanos - sample.boot.exactNanos)).toInt -
          min (sample.pair.middle : ℤ) 0x7fffffffffffffff) 0x7fffffffffffffff) := by
  have hmiddle : (Int64.ofIntClamp (sample.pair.midpoint.toNat : ℤ)).toInt =
      min (sample.pair.middle : ℤ) 0x7fffffffffffffff := by
    rw [toInt_ofIntClamp, PairedSample.toNat_midpoint]
    omega
  rw [BootSample.raw, toInt_saturatingSub, hmiddle]

/-- What a sample leaves as the raw estimate is its own. -/
theorem Estimate.absorb_raw (e : Estimate) (ratio : Ratio) (settings : Settings)
    (sample : BootSample) : (e.absorb ratio settings sample).2.raw = some (sample.raw ratio) := by
  rcases e.absorb_cases ratio settings sample with ⟨habsorb, -⟩ | ⟨next, habsorb, -⟩ <;>
    rw [habsorb] <;> rfl

/-! ## The runs of a refresh -/

namespace Estimator

variable {ratio : Ratio} {settings : Settings} {e e' : Estimator} {s t : σ}

/-- Completing an attempt counts how it ended, and no restart. -/
theorem complete_bootRestarts (e : Estimator) (outcome : RefreshOutcome) (estimate : Estimate)
    (counters : Counters) (wall : Timeval) :
    (e.complete outcome estimate counters wall).counters.bootRestarts = counters.bootRestarts := by
  cases outcome <;> rfl

/-- A refresh over a recorded machine, with the record that it leaves. -/
theorem refresh_recorded_eq {converter : Converter} {answer : Except ClockError RefreshOutcome}
    (h : e.refresh m converter settings s = (answer, e', t)) :
    e.refresh m.recorded converter settings (s, []) =
      (answer, e', t, e.refreshRecord m converter settings s) := by
  obtain ⟨answer₂, ⟨e₂, u⟩, ⟨_, t₂⟩, hrecorded, hplain, rfl, rfl⟩ :=
    (m.recorded_agrees.toReadsAgree.refresh converter settings e (s := (s, [])) rfl).cases
  rw [h] at hplain
  cases hplain
  rw [refreshRecord, hrecorded]

/-- A refresh ends as its sampling does: it absorbs the sample, or passes the error on. -/
theorem refresh_ends {answer : Except ClockError RefreshOutcome}
    (h : e.refresh m (.calibrated ratio) settings s = (answer, e', t)) :
    ∃ (discarded : List (SampleRun settings)) (sampled : Except ClockError BootSample),
      SamplingEnds settings discarded sampled
        (transcript (e.refreshRecord m (.calibrated ratio) settings s)) ∧
      (∀ run ∈ discarded, run.bootAfter ≠ run.boot) ∧
      e'.counters.bootRestarts = e.counters.bootRestarts + .ofNat discarded.length ∧
      answer = sampled.map (fun sample => (e.estimate.absorb ratio settings sample).1) ∧
      ∀ sample, sampled = .ok sample →
        e'.estimate = (e.estimate.absorb ratio settings sample).2 := by
  cases refresh_calibrated (refresh_recorded_eq h) with
  | failed hsample =>
    obtain ⟨discarded, events, hcalled, hends, hmoved, hrestarts⟩ := takeSample_ends hsample
    change transcript _ = [] ++ events at hcalled
    rw [hcalled]
    refine ⟨discarded, _, hends, hmoved, ?_, rfl, fun sample hok => by cases hok⟩
    -- a failure is counted elsewhere
    rw [Counters.recordFailure]
    split <;> exact hrestarts
  | @absorbed sample counters _ hsample =>
    obtain ⟨discarded, events, hcalled, hends, hmoved, hrestarts⟩ := takeSample_ends hsample
    change transcript _ = [] ++ events at hcalled
    rw [hcalled]
    refine ⟨discarded, _, hends, hmoved, ?_, rfl, fun other hok => ?_⟩
    · rw [complete_bootRestarts]
      exact hrestarts
    · cases hok
      rw [complete_estimate]

/-- What a completed refresh is made from: the runs that it discarded, the run that it kept, and the
pair that it used of that run. -/
structure MadeFrom (ratio : Ratio) (e e' : Estimator) (events : List MachineEvent)
    (discarded : List (SampleRun settings)) (last : SampleRun settings) (used : PairedSample) :
    Prop where
  /-- The calls are those of the runs, one after the other. -/
  calls : events = (discarded ++ [last]).flatMap SampleRun.events
  /-- Both reads of the boot time agree in the run that was kept. -/
  stands : last.bootAfter = last.boot
  /-- They differ in every other run. -/
  moved : ∀ run ∈ discarded, run.bootAfter ≠ run.boot
  restarts_le : discarded.length ≤ settings.maxBootRestarts.toNat
  /-- Each of the other runs counts as a restart, and nothing else does. -/
  bootRestarts : e'.counters.bootRestarts = e.counters.bootRestarts + .ofNat discarded.length
  number : last.searches.length = max 1 settings.samplesPerAttempt.toNat
  /-- Each search ends at the first poll that shows another value than the one before the polls. -/
  firstChange : ∀ search ∈ last.searches,
    (∀ poll ∈ search.idle, poll.wall = search.start) ∧ search.pair.wall ≠ search.start
  /-- The pair used is narrower than all before it, and no wider than any after it. -/
  tightest : ∃ older newer, last.pairs = older ++ used :: newer ∧
    (∀ pair ∈ older, used.width < pair.width) ∧ ∀ pair ∈ newer, used.width ≤ pair.width
  /-- The raw estimate is that of the pair used and the boot time that stood still. -/
  raw : ∃ raw, e'.estimate.raw = some raw ∧
    raw.toInt = max (-0x8000000000000000) (min
      ((ratio.signedNanosToTicks (used.wall.exactNanos - last.boot.exactNanos)).toInt -
        min (used.middle : ℤ) 0x7fffffffffffffff) 0x7fffffffffffffff)

/-- A refresh that completes uses the tightest pair of the first run in which the boot time stood
still. -/
theorem refresh_madeFrom (m : Machine σ) (ratio : Ratio) (settings : Settings) (e e' : Estimator)
    (s t : σ) (outcome : RefreshOutcome)
    (h : e.refresh m (.calibrated ratio) settings s = (.ok outcome, e', t)) :
    ∃ (discarded : List (SampleRun settings)) (last : SampleRun settings) (used : PairedSample),
      MadeFrom ratio e e' (transcript (e.refreshRecord m (.calibrated ratio) settings s))
        discarded last used := by
  obtain ⟨discarded, sampled, hends, hmoved, hrestarts, hanswer, hestimate⟩ := refresh_ends h
  generalize transcript (e.refreshRecord m (.calibrated ratio) settings s) = events at hends ⊢
  cases hends with
  | cut hle hfails => cases hanswer
  | restartedOut hlength => cases hanswer
  | @kept last used hle hstands hused =>
    refine ⟨discarded, last, used, ?_⟩
    exact
      { calls := rfl
        stands := hstands
        moved := hmoved
        restarts_le := hle
        bootRestarts := hrestarts
        number := last.length_eq
        firstChange := fun search _ => ⟨search.unchanged, search.changed⟩
        tightest := by
          -- brackets are compared as words, which is how they compare as numbers
          obtain ⟨older, newer, hpairs, holder, hnewer⟩ := hused
          refine ⟨older, newer, hpairs, fun pair hmem => ?_, fun pair hmem => ?_⟩
          · rw [← PairedSample.toNat_bracket, ← PairedSample.toNat_bracket]
            exact UInt64.lt_iff_toNat_lt.mp (holder pair hmem)
          · rw [← PairedSample.toNat_bracket, ← PairedSample.toNat_bracket]
            exact UInt64.le_iff_toNat_le.mp (hnewer pair hmem)
        raw := by
          refine ⟨_, ?_, BootSample.toInt_raw_eq ⟨last.boot, used⟩ ratio⟩
          rw [hestimate _ rfl]
          exact e.estimate.absorb_raw ratio settings _ }

/-- Three pairs a run, one restart, and two polls a pair. -/
def threePairs : Settings := { samplesPerAttempt := 3, maxBootRestarts := 1, maxWallPolls := 2 }

/-- The boot time moves during the first run, and with it go the narrowest pairs. In the second run
the first pair takes two polls, and the other two are equally narrow. -/
def movedOnce : Script where
  boot := [.ok ⟨0, 0⟩, .ok ⟨1, 0⟩]
  wall := [.ok ⟨5, 1⟩, .ok ⟨5, 2⟩, .ok ⟨5, 3⟩, .ok ⟨5, 4⟩, .ok ⟨5, 5⟩, .ok ⟨5, 6⟩,
    .ok ⟨5, 7⟩, .ok ⟨5, 7⟩, .ok ⟨5, 8⟩, .ok ⟨5, 9⟩, .ok ⟨5, 10⟩, .ok ⟨5, 11⟩, .ok ⟨5, 12⟩]
  ticks := [10, 11, 12, 13, 14, 15, 20, 21, 100, 140, 200, 230, 300, 330]

theorem movedOnce_madeFrom :
    (new.refresh (Script.machine false) (.calibrated .identity) threePairs movedOnce).1 =
        .ok (.committed 4000009785) ∧
      ∃ (discarded : List (SampleRun threePairs)) (last : SampleRun threePairs)
        (used : PairedSample),
        MadeFrom .identity new
          (new.refresh (Script.machine false) (.calibrated .identity) threePairs movedOnce).2.1
          (transcript (new.refreshRecord (Script.machine false) (.calibrated .identity) threePairs
            movedOnce)) discarded last used := by
  refine ⟨rfl, ?_⟩
  exact refresh_madeFrom (Script.machine false) .identity threePairs new _ movedOnce _
    (.committed 4000009785) rfl

end Estimator

end SoftClock
