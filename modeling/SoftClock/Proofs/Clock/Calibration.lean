import SoftClock.Machine.Simulated
import SoftClock.Proofs.Clock.Settling
import SoftClock.Proofs.Timebase.Conversion

/-!
# Calibrating Once

A clock reads the scale of the counter when it is first needed, and again by each operation that
needs it, until a read gives a scale without a zero term. From then on the clock keeps the converter
of that scale, and never reads the scale again, whatever it would be by then. Until then every time
and every resolution made from ticks is zero.

* `firstScale?` and `ScaleReadOnce` say this of the record of the machine's calls;
* `Clock.Knows` relates a clock to the record. Asking for the converter keeps it
  (`Knows.converter`), and so does everything that a step does afterwards
  (`ClockRun.Change.knows`);
* `ClockRun.run_calibratedOnce` states for every run what this means for the operations.
-/

namespace SoftClock

variable {σ τ ε : Type}

/-! ## Reads of the scale -/

/-- The call was a read of the scale. -/
def MachineEvent.isScale : MachineEvent → Bool
  | .scale _ => true
  | _ => false

/-- The scale that was read, unless the read failed or a term is zero. -/
def MachineEvent.usableScale? : MachineEvent → Option Scale
  | .scale (.ok answer) => if answer.numer ≠ 0 ∧ answer.denom ≠ 0 then some answer else none
  | _ => none

/-- The first usable scale in a record. The newest call of a record stands first, so this is the
last one in the list. -/
def firstScale? (records : List (MachineRecord σ)) : Option Scale :=
  (records.filterMap fun r => r.event.usableScale?).getLast?

/-- In a record the scale is not read again after a read that gave a usable one. -/
def ScaleReadOnce (records : List (MachineRecord σ)) : Prop :=
  records.Pairwise fun later earlier =>
    earlier.event.usableScale?.isSome → later.event.isScale = false

section Records

variable {records : List (MachineRecord σ)} {r : MachineRecord σ} {scale : Scale}

theorem usableScale?_of_not_isScale {event : MachineEvent} (h : event.isScale = false) :
    event.usableScale? = none := by
  cases event with
  | scale answer => cases h
  | _ => rfl

theorem firstScale?_cons_of_none (h : r.event.usableScale? = none) :
    firstScale? (r :: records) = firstScale? records := by
  simp [firstScale?, h]

theorem firstScale?_cons_of_some (h : r.event.usableScale? = some scale)
    (hnone : firstScale? records = none) : firstScale? (r :: records) = some scale := by
  unfold firstScale? at *
  simp [h, List.getLast?_eq_none_iff.mp hnone]

/-- The first usable scale stays the first one. -/
theorem firstScale?_of_suffix {older : List (MachineRecord σ)} (hsuffix : older <:+ records)
    (h : firstScale? older = some scale) : firstScale? records = some scale := by
  obtain ⟨newer, rfl⟩ := hsuffix
  unfold firstScale? at *
  rw [List.filterMap_append, List.getLast?_append, h]
  rfl

/-- Until a usable scale was read every further call is allowed. -/
theorem ScaleReadOnce.cons_of_none (h : ScaleReadOnce records)
    (hnone : firstScale? records = none) : ScaleReadOnce (r :: records) := by
  refine List.pairwise_cons.mpr ⟨fun earlier hearlier husable => ?_, h⟩
  have hunusable : earlier.event.usableScale? = none :=
    List.filterMap_eq_nil_iff.mp (List.getLast?_eq_none_iff.mp hnone) earlier hearlier
  rw [hunusable] at husable
  cases husable

/-- Calls other than reads of the scale are always allowed. -/
theorem ScaleReadOnce.cons_of_not_isScale (h : ScaleReadOnce records)
    (hother : r.event.isScale = false) : ScaleReadOnce (r :: records) :=
  List.pairwise_cons.mpr ⟨fun _ _ _ => hother, h⟩

end Records

/-! ## What a clock knows -/

/-- A clock holds the first usable scale of a record, and the scale was not read again. -/
structure Clock.Knows (c : Clock) (records : List (MachineRecord σ)) : Prop where
  once : ScaleReadOnce records
  scale : c.ratio?.map Ratio.scale = firstScale? records

namespace Clock.Knows

variable {m : Machine σ} {c : Clock} {records : List (MachineRecord σ)} {r : MachineRecord σ}
  {s t : σ × List (MachineRecord σ)}

/-- Calls other than reads of the scale do not matter. -/
theorem cons (h : c.Knows records) (hother : r.event.isScale = false) : c.Knows (r :: records) where
  once := h.once.cons_of_not_isScale hother
  scale := by rw [h.scale, firstScale?_cons_of_none (usableScale?_of_not_isScale hother)]

/-- Reads of a machine without a scale do not matter. -/
theorem reads (h : c.Knows s.2) (hreads : m.recorded.unscaled.Reads s t) : c.Knows t.2 := by
  refine hreads.keeps (P := fun t => c.Knows t.2) (fun u v hread hknows => ?_) h
  cases hread with
  | approxTicks =>
    rw [Machine.unscaled_approxTicks]
    rcases m.recorded_approxTicks with ⟨-, hcalls⟩ | ⟨-, hcalls⟩ <;> rw [hcalls] <;>
      exact hknows.cons rfl
  | scale => exact hknows
  | wall | ticks | boot | processCpu | threadCpu => exact hknows.cons rfl

/-- Asking for the converter keeps what is known, and finds out what is not known yet. -/
theorem converter (h : c.Knows s.2) :
    (c.converter m.recorded s).2.1.Knows (c.converter m.recorded s).2.2.2 := by
  cases hratio : c.ratio? with
  | some ratio =>
    rw [Clock.converter, hratio]
    exact h
  | none =>
    have hnone : firstScale? s.2 = none := by rw [← h.scale, hratio]; rfl
    have hunknown {r : MachineRecord σ} (hevent : r.event.usableScale? = none) :
        c.Knows (r :: s.2) :=
      ⟨h.once.cons_of_none hnone, by rw [h.scale, firstScale?_cons_of_none hevent]⟩
    -- the scale is read now, and the read is noted
    rcases hscale : m.scale s.1 with ⟨answer, t⟩
    have hrecorded : m.recorded.scale s = (answer, t, ⟨s.1, .scale answer⟩ :: s.2) := by
      simp [Machine.recorded, Machine.noted, Machine.noting, hscale]
    cases answer with
    | error e =>
      simp only [Clock.converter, hratio, hrecorded]
      exact hunknown rfl
    | ok scale =>
      cases hofScale : Ratio.ofScale scale with
      | error e =>
        -- only a zero term leaves a scale without a ratio
        have hzero : ¬ (scale.numer ≠ 0 ∧ scale.denom ≠ 0) := by
          rw [← Ratio.exists_ofScale_iff, hofScale]
          rintro ⟨ratio, hratio⟩
          cases hratio
        simp only [Clock.converter, hratio, hrecorded, hofScale]
        exact hunknown (if_neg hzero)
      | ok ratio =>
        have husable : (MachineEvent.scale (.ok scale)).usableScale? = some scale :=
          if_pos (Ratio.exists_ofScale_iff.mp ⟨ratio, hofScale⟩)
        simp only [Clock.converter, hratio, hrecorded, hofScale]
        refine ⟨h.once.cons_of_none hnone, ?_⟩
        rw [firstScale?_cons_of_some (r := ⟨s.1, _⟩) husable hnone]
        exact congrArg some (Ratio.scale_of_ofScale hofScale)

/-- Setting a clock does not matter. -/
theorem setTime (h : c.Knows s.2) {id : ClockId} {time : Timespec} {answer : Except ClockError Unit}
    (hset : Clock.setTime m.recorded.unscaled id time s = (answer, t)) : c.Knows t.2 := by
  unfold Clock.setTime at hset
  split at hset
  · split at hset
    · cases hset
      exact h.cons rfl
    · cases hset
      exact h
  · cases hset
    exact h

end Clock.Knows

/-- A converter is that of a scale that may not be known. -/
def Converter.IsOf (converter : Converter) : Option Scale → Prop
  | none => converter = .degraded
  | some scale => Converter.ofScale scale = .ok converter

/-- What is known is the ratio of the first usable scale. -/
theorem Clock.Knows.isOf {c : Clock} {records : List (MachineRecord σ)} (h : c.Knows records) :
    (Converter.ofRatio? c.ratio?).IsOf (firstScale? records) := by
  rw [← h.scale]
  cases c.ratio? with
  | none => rfl
  | some ratio =>
    show Converter.ofScale ratio.scale = .ok (.calibrated ratio)
    rw [Converter.ofScale, ratio.ofScale_scale]
    rfl

/-- On a machine without a scale nothing more becomes known. -/
theorem Clock.Advanced.ratio?_unscaled {m : Machine σ} {c c' : Clock} {s t : σ}
    {outcome? : Option (Except ClockError RefreshOutcome)}
    (h : Clock.Advanced m.unscaled c s outcome? c' t) : c'.ratio? = c.ratio? := by
  cases h with
  | intro hcalibrates hprepared =>
    cases hcalibrates with
    | kept hreads => rfl
    | read hnone hscale hratio => cases hscale

/-- Asking for the converter gives the converter of what is known then. -/
theorem Clock.converter_fst (m : Machine σ) (c : Clock) (s : σ) :
    (c.converter m s).1 = Converter.ofRatio? (c.converter m s).2.1.ratio? := by
  obtain ⟨ratio?, t, -, hconverter⟩ := c.converter_calibrates m s
  rw [hconverter]

/-- If nothing is known once a step has asked for the converter, then nothing was known before. -/
theorem ClockStep.ratio?_of_settle {m : Machine σ} {c : Clock} {s : σ} {step : ClockStep ε}
    (h : (step.settle m c s).1.ratio? = none) : c.ratio? = none := by
  unfold settle at h
  split at h
  · obtain ⟨ratio?, t, hcalibrates, hconverter⟩ := c.converter_calibrates m s
    rw [hconverter] at h
    cases hratio : c.ratio? with
    | none => rfl
    | some ratio =>
      rw [hcalibrates.of_some hratio] at h
      cases h
  · exact h

/-! ## Runs -/

namespace ClockRun

variable {m : Machine σ} {act : ε → σ → σ} {run run' : ClockRun (σ × List (MachineRecord σ))}

/-- Without reading the scale a step leaves what is known as it is. -/
theorem Change.knows {step : ClockStep ε}
    (hchange : Change m.recorded.unscaled (Machine.besideRecord act) step run run')
    (h : run.clock.Knows run.state.2) :
    run'.clock.Knows run'.state.2 ∧ run'.clock.ratio? = run.clock.ratio? := by
  have hadvance {c : Clock} {t u : σ × List (MachineRecord σ)}
      {outcome? : Option (Except ClockError RefreshOutcome)}
      (hadvanced : Clock.Advanced m.recorded.unscaled run.clock run.state outcome? c t)
      (hreads : m.recorded.unscaled.Reads t u) :
      c.Knows u.2 ∧ c.ratio? = run.clock.ratio? := by
    have hratio := hadvanced.ratio?_unscaled
    obtain ⟨honce, hscale⟩ := h.reads (hadvanced.reads.trans hreads)
    exact ⟨⟨honce, hratio ▸ hscale⟩, hratio⟩
  cases hchange with
  | environment action => exact ⟨h, rfl⟩
  | invalidated => exact ⟨⟨h.once, h.scale⟩, rfl⟩
  | timeSet hset => exact ⟨h.setTime hset, rfl⟩
  | other hadvanced hreads => exact hadvance hadvanced hreads
  | monotonic hadvanced hticks => exact hadvance hadvanced (.of_ticks hticks)
  | continuous hadvanced hticks => exact hadvance hadvanced (.of_ticks hticks)
  | approx hadvanced hticks => exact hadvance hadvanced (.of_approxTicks hticks)

/-- A step that asks for the converter may find out what is not known yet. -/
theorem settle_knows (h : run.clock.Knows run.state.2) (step : ClockStep ε) :
    (run.settle m.recorded step).clock.Knows (run.settle m.recorded step).state.2 := by
  unfold settle ClockStep.settle
  split
  · exact h.converter
  · exact h

/-- A step keeps what is known, which is what was known once it had asked for the converter. -/
theorem step_knows (act : ε → σ → σ) (h : run.clock.Knows run.state.2) (step : ClockStep ε) :
    (run.step m.recorded (Machine.besideRecord act) step).clock.Knows
        (run.step m.recorded (Machine.besideRecord act) step).state.2 ∧
      (run.step m.recorded (Machine.besideRecord act) step).clock.ratio? =
        (run.settle m.recorded step).clock.ratio? := by
  rw [step_unscaled]
  exact (step_change m.recorded.unscaled (Machine.besideRecord act) _ step).knows
    (settle_knows h step)

/-- The answer of a step is made with what is known after the step. -/
theorem step_madeWith (h : run.clock.Knows run.state.2) {step : ClockStep ε} {answer : ClockAnswer}
    (hanswer : (step.perform m.recorded (Machine.besideRecord act) run.clock run.state).1 =
      some answer) :
    answer.MadeWith (Converter.ofRatio?
      (run.step m.recorded (Machine.besideRecord act) step).clock.ratio?) := by
  rw [(step_knows act h step).2]
  rw [step.perform_unscaled] at hanswer
  exact ClockStep.perform_madeWith hanswer

/-- A run whose clock has kept the first usable scale of a record and then read no other one.
Without a usable scale everything is zero. Either way no query of a clock made from ticks fails. -/
structure CalibratedOnce (records : List (MachineRecord σ)) (run : ClockRun τ) : Prop where
  /-- The clock holds the first usable scale, and the scale was not read after it. -/
  knows : run.clock.Knows records
  /-- Without a usable scale all answers have been zero, and all attempts have failed. -/
  zero : firstScale? records = none →
    (∀ answer ∈ run.answers, answer.IsZero) ∧
      ∀ attempt ∈ run.attempts, attempt = .error (.calibration "no timebase for offset estimate")
  /-- Queries of clocks made from ticks have been answered. -/
  answered : ∀ answer ∈ run.answers, answer.IsAnswered

/-- Every step keeps a run calibrated once. -/
theorem CalibratedOnce.step (h : run.CalibratedOnce run.state.2) (act : ε → σ → σ)
    (step : ClockStep ε) :
    (run.step m.recorded (Machine.besideRecord act) step).CalibratedOnce
      (run.step m.recorded (Machine.besideRecord act) step).state.2 := by
  obtain ⟨hknows, hratio⟩ := step_knows act h.knows step
  refine ⟨hknows, fun hnone => ?_, fun answer hanswer => ?_⟩
  · -- nothing is known now, so nothing was known before or in between
    rw [← hknows.scale, Option.map_eq_none_iff] at hnone
    have hsettled : (run.settle m.recorded step).clock.ratio? = none := hratio.symm.trans hnone
    have hbefore : firstScale? run.state.2 = none := by
      rw [← h.knows.scale, ClockStep.ratio?_of_settle hsettled]
      rfl
    obtain ⟨hanswers, hattempts⟩ := h.zero hbefore
    refine ⟨fun answer hanswer => ?_, fun attempt hattempt => ?_⟩
    · rcases List.mem_append.mp hanswer with hnew | hold
      · have hmade := step_madeWith h.knows (Option.mem_toList.mp hnew)
        rw [hnone] at hmade
        exact hmade.isZero
      · exact hanswers answer hold
    · rcases List.mem_append.mp hattempt with hnew | hold
      · rw [step.attempt?_unscaled] at hnew
        exact ClockStep.attempt_failed hsettled (Option.mem_toList.mp hnew)
      · exact hattempts attempt hold
  · rcases List.mem_append.mp hanswer with hnew | hold
    · exact (step_madeWith h.knows (Option.mem_toList.mp hnew)).isAnswered
    · exact h.answered answer hold

/-- The run of a clock that has not estimated anything yet. -/
def unbuilt (settings : Settings) (s : σ) : ClockRun σ :=
  ⟨⟨settings, none, .new settings⟩, s, [], []⟩

/-- Building a clock is at most one estimate, whose answer is not kept. -/
theorem start_eq (m : Machine σ) (act : ε → σ → σ) (settings : Settings) (s : σ) :
    start m settings s =
      if settings.eagerInit then
        { (unbuilt settings s).step m act .refreshOffset with answers := [] }
      else unbuilt settings s := by
  by_cases h : settings.eagerInit
  · simp [start, Clock.withSettings, h, unbuilt, step, ClockStep.perform, ClockStep.attempt?]
  · simp [start, Clock.withSettings, h, unbuilt]

/-- A clock that was just built may have kept a scale already. -/
theorem start_calibratedOnce (m : Machine σ) (settings : Settings) (s : σ) :
    (start m.recorded settings (s, [])).CalibratedOnce
      (start m.recorded settings (s, [])).state.2 := by
  have hunbuilt : (unbuilt settings (s, ([] : List (MachineRecord σ)))).CalibratedOnce
      (unbuilt settings (s, ([] : List (MachineRecord σ)))).state.2 :=
    ⟨⟨.nil, rfl⟩, fun _ => ⟨by simp [unbuilt], by simp [unbuilt]⟩, by simp [unbuilt]⟩
  rw [start_eq m.recorded (Machine.besideRecord fun (_ : Unit) s => s)]
  split
  · obtain ⟨hknows, hzero, -⟩ := hunbuilt.step (fun (_ : Unit) s => s) .refreshOffset
    exact ⟨hknows, fun hnone => ⟨by simp, (hzero hnone).2⟩, by simp⟩
  · exact hunbuilt

/-- Any number of steps keeps a run calibrated once. -/
theorem CalibratedOnce.steps (h : run.CalibratedOnce run.state.2) (act : ε → σ → σ)
    (steps : List (ClockStep ε)) :
    (run.run m.recorded (Machine.besideRecord act) steps).CalibratedOnce
      (run.run m.recorded (Machine.besideRecord act) steps).state.2 := by
  induction steps generalizing run with
  | nil => exact h
  | cons step steps ih => exact ih (h.step act step)

/-- A run on a recorded machine is the run on the plain one, with the record beside the state. -/
theorem run_recorded_eq (m : Machine σ) (act : ε → σ → σ) (settings : Settings) (s : σ)
    (steps : List (ClockStep ε)) :
    (start m.recorded settings (s, [])).run m.recorded (Machine.besideRecord act) steps =
      ⟨((start m settings s).run m act steps).clock,
        (((start m settings s).run m act steps).state, record m act settings s steps),
        ((start m settings s).run m act steps).answers,
        ((start m settings s).run m act steps).attempts⟩ := by
  obtain ⟨hclock, hstate, hanswers, hattempts⟩ := run_recorded m act settings s steps
  rw [← hclock, ← hstate, ← hanswers, ← hattempts]
  rfl

/-- In every run the scale is not read again once it was usable, and the converter is that of the
first usable scale from then on; until then it is the degraded one, and times and resolutions made
from ticks are zero. This is said of a moment of the run, of the converter that is asked for then,
and of the next step, whose answer is made with the converter of what is known after it. -/
theorem run_calibratedOnce (m : Machine σ) (act : ε → σ → σ) (settings : Settings) (s : σ)
    (steps : List (ClockStep ε)) (step : ClockStep ε) :
    let run := (start m settings s).run m act steps
    let records := record m act settings s steps
    let later := record m act settings s (steps ++ [step])
    let asked := run.clock.converter m.recorded (run.state, records)
    run.CalibratedOnce records ∧
      (ScaleReadOnce asked.2.2.2 ∧ asked.1.IsOf (firstScale? asked.2.2.2)) ∧
      (∀ scale, firstScale? records = some scale → firstScale? later = some scale) ∧
      ∀ answer, (step.perform m act run.clock run.state).1 = some answer →
        ∃ converter, converter.IsOf (firstScale? later) ∧ answer.MadeWith converter := by
  intro run records later asked
  have hcalibrated := (start_calibratedOnce m settings s).steps (m := m) act steps
  -- the record of one more step is that of the step taken after the recorded run
  have hlater : later = (ClockRun.step m.recorded (Machine.besideRecord act)
      ⟨run.clock, (run.state, records), run.answers, run.attempts⟩ step).state.2 := by
    show record m act settings s (steps ++ [step]) = _
    rw [record, run_concat, run_recorded_eq]
  rw [run_recorded_eq] at hcalibrated
  refine ⟨⟨hcalibrated.knows, hcalibrated.zero, hcalibrated.answered⟩, ?_, ?_, ?_⟩
  · have hasked := hcalibrated.knows.converter (m := m)
    refine ⟨hasked.once, ?_⟩
    rw [Clock.converter_fst]
    exact hasked.isOf
  · intro scale hscale
    rw [hlater]
    exact firstScale?_of_suffix (step_change _ _ _ step).suffix hscale
  · intro answer hanswer
    have hperform := (perform_agree m.recorded_agrees (Machine.besideRecord_fst act) step run.clock
      (s := (run.state, records)) rfl).1
    rw [hlater]
    exact ⟨_, (step_knows act hcalibrated.knows step).1.isOf,
      step_madeWith hcalibrated.knows (hperform.trans hanswer)⟩

/-- A simulated machine whose scale cannot be read at first, then has a zero term, then is that of a
24 MHz counter, and at last changes once more. -/
def changingScaleSteps : List (ClockStep (Simulated → Simulated)) :=
  [.nanos .monotonic, .environment fun s => { s with scaleFails := false, scale := ⟨0, 3⟩ },
    .resolution .monotonicRaw, .timebase, .environment fun s => { s with scale := .megahertz24 },
    .resolution .monotonicRaw, .environment fun s => { s with scale := .identity }, .timebase,
    .resolution .uptimeRaw]

/-- The clock keeps the scale of the 24 MHz counter. -/
theorem changingScaleSteps_calibratedOnce :
    ((start Simulated.machine .brief (.failScale true .new)).run Simulated.machine id
        changingScaleSteps).answers =
      [.resolution .uptimeRaw (.ok ⟨0, 42⟩), .timebase (some .megahertz24),
        .resolution .monotonicRaw (.ok ⟨0, 42⟩), .timebase none,
        .resolution .monotonicRaw (.ok ⟨0, 0⟩), .nanos .monotonic (.ok 0)] ∧
      firstScale? (record Simulated.machine id .brief (.failScale true .new) changingScaleSteps) =
        some .megahertz24 ∧
      CalibratedOnce (record Simulated.machine id .brief (.failScale true .new) changingScaleSteps)
        ((start Simulated.machine .brief (.failScale true .new)).run Simulated.machine id
          changingScaleSteps) := by
  refine ⟨by decide +kernel, by decide +kernel, ?_⟩
  exact (run_calibratedOnce Simulated.machine id .brief (.failScale true .new) changingScaleSteps
    .timebase).1

end ClockRun

end SoftClock
