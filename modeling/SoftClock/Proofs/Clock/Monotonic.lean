import SoftClock.Machine.Simulated
import SoftClock.Proofs.Clock.Run
import SoftClock.Proofs.Timebase.Conversion

/-!
# The Monotonic Clock Never Goes Back

On a machine whose precise counter never goes back and stays below `2 ^ 63`, the answers of
`monotonic` and of the continuous count never go back either, whatever else the machine does and
whatever operations come between.

* `ClockAnswer.Bounded` is the invariant: an answer is at most what a counter read that was made,
  the addend of today and the ratio known today give. Time only raises this bound (`Bounded.grows`).
* `ClockAnswer.NotAhead` relates an earlier answer to a later one. A new answer is made from the
  newest counter read, so no bounded answer is ahead of it (`Bounded.notAhead_monotonic` and
  `Bounded.notAhead_continuousTime`).
* `ClockRun.Change.inOrder` is the step: what is in order stays so.
* `ClockRun.answers_neverBack` puts this together for every run.
-/

namespace SoftClock

variable {σ ε : Type}

/-! ## Arithmetic of answers -/

/-- Two words below `2 ^ 63` add up without wrapping. -/
theorem toNat_add_of_lt {a b : UInt64} (ha : a.toNat < 0x8000000000000000)
    (hb : b.toNat < 0x8000000000000000) : (a + b).toNat = a.toNat + b.toNat := by
  rw [UInt64.toNat_add]
  omega

/-- A sum of words is at most the sum of the numbers. -/
theorem toNat_add_le (a b : UInt64) : (a + b).toNat ≤ a.toNat + b.toNat := by
  rw [UInt64.toNat_add]
  exact Nat.mod_le _ _

/-- The floor to microseconds keeps the order. -/
theorem floorToMicros_le_floorToMicros {a b : UInt64} (h : a ≤ b) :
    floorToMicros a ≤ floorToMicros b := by
  rw [UInt64.le_iff_toNat_le] at h ⊢
  rw [toNat_floorToMicros, toNat_floorToMicros]
  omega

/-! ## What time raises -/

/-- The record and the clock of a later moment: more calls, the same ratio where it was known, and
no smaller addend, which still fits a signed word. -/
structure Grows (records : List (MachineRecord σ)) (c : Clock) (records' : List (MachineRecord σ))
    (c' : Clock) : Prop where
  records : records <:+ records'
  ratio {ratio : Ratio} : c.ratio? = some ratio → c'.ratio? = some ratio
  addend : c.continuous.addend ≤ c'.continuous.addend

/-- More calls alone. -/
theorem Grows.of_suffix {records records' : List (MachineRecord σ)} (c : Clock)
    (hsuffix : records <:+ records') : Grows records c records' c :=
  ⟨hsuffix, id, UInt64.le_refl _⟩

/-- An invalidation changes nothing that answers are made from. -/
theorem Grows.invalidateOffset (records : List (MachineRecord σ)) (c : Clock) :
    Grows records c records c.invalidateOffset :=
  ⟨List.suffix_rfl, id, UInt64.le_refl _⟩

/-- The published offset fits a signed word. -/
def Clock.OffsetFits (c : Clock) : Prop :=
  c.continuous.estimator.published.toNat < 0x8000000000000000

/-- What is added to the counter is published, or nothing. -/
theorem Clock.OffsetFits.addend_lt {c : Clock} (h : c.OffsetFits) :
    c.continuous.addend.toNat < 0x8000000000000000 := by
  rw [Continuous.addend]
  split
  · decide
  · exact h
  · exact h

/-- Preparing keeps the mode, and neither lowers the published offset nor takes it out of range. -/
theorem Continuous.Prepared.published {m : Machine σ} {converter : Converter} {settings : Settings}
    {c c' : Continuous} {s t : σ} {outcome? : Option (Except ClockError RefreshOutcome)}
    (h : Continuous.Prepared m converter settings c s outcome? c' t) :
    c'.mode = c.mode ∧ c.estimator.published ≤ c'.estimator.published ∧
      (c.estimator.published.toNat < 0x8000000000000000 →
        c'.estimator.published.toNat < 0x8000000000000000) := by
  cases h with
  | idle hreads => exact ⟨rfl, UInt64.le_refl _, id⟩
  | attempted hreads hrefresh => exact ⟨rfl, Estimator.refresh_published hrefresh⟩

/-- Advancing a clock on a recorded machine only raises. -/
theorem Clock.Advanced.grows {m : Machine σ} {c c' : Clock} {s t : σ × List (MachineRecord σ)}
    {outcome? : Option (Except ClockError RefreshOutcome)}
    (h : Clock.Advanced m.recorded c s outcome? c' t) (hfits : c.OffsetFits) :
    Grows s.2 c t.2 c' ∧ c'.OffsetFits := by
  cases h with
  | intro hcalibrates hprepared =>
    obtain ⟨hmode, hle, hlt⟩ := hprepared.published
    refine ⟨⟨?_, fun hratio => hcalibrates.of_some hratio, ?_⟩, hlt hfits⟩
    · exact (hcalibrates.reads.trans hprepared.reads).suffix
    · simp only [Continuous.addend, hmode]
      split
      · exact UInt64.le_refl _
      · exact hle
      · exact hle

/-! ## The invariant -/

namespace ClockAnswer

/-- The most that an answer can be at a moment. A time of zero may stem from the time before a ratio
was known. -/
def Bounded (records : List (MachineRecord σ)) (c : Clock) : ClockAnswer → Prop
  | .nanos .monotonic (.ok time) =>
    time = 0 ∨ ∃ ratio ticks, c.ratio? = some ratio ∧ ticks ∈ preciseReads records ∧
      time ≤ floorToMicros (ratio.ticksToNanos (ticks + c.continuous.addend))
  | .nanos .monotonic (.error _) => False
  | .continuousTime time =>
    ∃ ticks ∈ preciseReads records, time ≤ ticks + c.continuous.addend
  | .continuousApproxTime time =>
    ∃ ticks, (ticks ∈ preciseReads records ∨ ticks ∈ coarseReads records) ∧
      time.toNat ≤ ticks.toNat + c.continuous.addend.toNat
  | _ => True

/-- An answer is not ahead of a later one. That an approximate count is not either rests on the
coarse counter. -/
def NotAhead (coarseLags : Prop) : ClockAnswer → ClockAnswer → Prop
  | .nanos .monotonic (.ok earlier), .nanos .monotonic (.ok later) => earlier ≤ later
  | .continuousTime earlier, .continuousTime later => earlier ≤ later
  | .continuousApproxTime earlier, .continuousTime later => coarseLags → earlier ≤ later
  | _, _ => True

/-- Answers that are not made from the continuous count are bounded by nothing. -/
theorem bounded_of_not_isContinuous (records : List (MachineRecord σ)) (c : Clock)
    {answer : ClockAnswer} (h : answer.isContinuous = false) : answer.Bounded records c := by
  cases answer with
  | nanos id answer =>
    cases id with
    | monotonic => cases h
    | _ => trivial
  | continuousTime ticks => cases h
  | continuousApproxTime ticks => cases h
  | _ => trivial

/-- Nothing is ahead of an answer that is not made from the continuous count. -/
theorem notAhead_of_not_isContinuous (coarseLags : Prop) (earlier : ClockAnswer)
    {answer : ClockAnswer} (h : answer.isContinuous = false) :
    earlier.NotAhead coarseLags answer := by
  unfold NotAhead
  split
  · cases h
  · cases h
  · cases h
  · trivial

/-- Nothing is ahead of an approximate count. -/
theorem notAhead_continuousApproxTime (coarseLags : Prop) (earlier : ClockAnswer) (time : UInt64) :
    earlier.NotAhead coarseLags (.continuousApproxTime time) := by
  unfold NotAhead
  split
  · rename_i h
    cases h
  · rename_i h
    cases h
  · rename_i h
    cases h
  · trivial

/-- A bounded answer stays bounded. -/
theorem Bounded.grows {records records' : List (MachineRecord σ)} {c c' : Clock}
    {answer : ClockAnswer} (h : answer.Bounded records c) (hgrows : Grows records c records' c')
    (hcounter : CounterOrdered records') (hfits : c'.OffsetFits) : answer.Bounded records' c' := by
  have haddend := UInt64.le_iff_toNat_le.mp hgrows.addend
  -- neither sum wraps, so a larger addend gives a larger sum
  have hsum {ticks : UInt64} (hmem : ticks ∈ preciseReads records) :
      ticks + c.continuous.addend ≤ ticks + c'.continuous.addend := by
    have hticks := hcounter.lt ticks ((preciseReads_suffix hgrows.records).subset hmem)
    have hlt' := hfits.addend_lt
    rw [UInt64.le_iff_toNat_le, toNat_add_of_lt hticks (by omega), toNat_add_of_lt hticks hlt']
    omega
  cases answer with
  | nanos id answer =>
    cases id with
    | monotonic =>
      cases answer with
      | error e => exact h
      | ok time =>
        refine h.imp id ?_
        rintro ⟨ratio, ticks, hratio, hmem, hle⟩
        refine ⟨ratio, ticks, hgrows.ratio hratio, (preciseReads_suffix hgrows.records).subset hmem,
          ?_⟩
        refine UInt64.le_trans hle (floorToMicros_le_floorToMicros ?_)
        exact ratio.ticksToNanos_le_ticksToNanos (hsum hmem)
    | _ => trivial
  | continuousTime time =>
    obtain ⟨ticks, hmem, hle⟩ := h
    exact ⟨ticks, (preciseReads_suffix hgrows.records).subset hmem,
      UInt64.le_trans hle (hsum hmem)⟩
  | continuousApproxTime time =>
    obtain ⟨ticks, hmem, hle⟩ := h
    refine ⟨ticks, ?_, by omega⟩
    exact hmem.imp (fun h => (preciseReads_suffix hgrows.records).subset h)
      (fun h => (coarseReads_suffix hgrows.records).subset h)
  | _ => trivial

section Newest

variable {coarseLags : Prop} {records : List (MachineRecord σ)} {s t : σ} {c : Clock}
  {newest : UInt64} {answer : ClockAnswer}
  (hcounter : CounterOrdered (⟨s, .ticks newest⟩ :: records)) (hfits : c.OffsetFits)

include hcounter hfits

/-- The newest precise read and the addend do not wrap. -/
theorem toNat_newest : (newest + c.continuous.addend).toNat =
    newest.toNat + c.continuous.addend.toNat :=
  toNat_add_of_lt hcounter.newest_lt hfits.addend_lt

/-- A sum of an earlier precise read is at most that of the newest one. -/
theorem add_le_newest {ticks : UInt64} (hmem : ticks ∈ preciseReads records) :
    ticks + c.continuous.addend ≤ newest + c.continuous.addend := by
  have hle := UInt64.le_iff_toNat_le.mp (hcounter.le_newest hmem)
  have hsum := toNat_add_le ticks c.continuous.addend
  rw [UInt64.le_iff_toNat_le, toNat_newest hcounter hfits]
  omega

/-- No bounded answer is ahead of a continuous count made from the newest read. -/
theorem Bounded.notAhead_continuousTime (h : answer.Bounded records c)
    (hlags : coarseLags → CoarseLags (⟨s, .ticks newest⟩ :: records)) :
    answer.NotAhead coarseLags (.continuousTime (newest + c.continuous.addend)) := by
  cases answer with
  | continuousTime time =>
    obtain ⟨ticks, hmem, hle⟩ := h
    exact UInt64.le_trans hle (add_le_newest hcounter hfits hmem)
  | continuousApproxTime time =>
    intro hcoarse
    obtain ⟨ticks, hmem, hle⟩ := h
    -- on a machine without a coarse counter the approximate read was a precise one
    have hticks : ticks ≤ newest := by
      rcases hmem with hmem | hmem
      · exact hcounter.le_newest hmem
      · exact (hlags hcoarse).le_newest hmem
    have := UInt64.le_iff_toNat_le.mp hticks
    rw [UInt64.le_iff_toNat_le, toNat_newest hcounter hfits]
    omega
  | nanos id answer =>
    unfold NotAhead
    split <;> trivial
  | _ => trivial

/-- No bounded answer is ahead of a time of `monotonic` made from the newest read. -/
theorem Bounded.notAhead_monotonic (h : answer.Bounded records c) :
    answer.NotAhead coarseLags (.nanos .monotonic (.ok (floorToMicros
      ((Converter.ofRatio? c.ratio?).ticksToNanos (newest + c.continuous.addend))))) := by
  cases answer with
  | nanos id answer =>
    cases id with
    | monotonic =>
      cases answer with
      | error e => exact h.elim
      | ok time =>
        rcases h with rfl | ⟨ratio, ticks, hratio, hmem, hle⟩
        · -- a time of zero is ahead of nothing
          exact UInt64.zero_le
        · rw [hratio]
          refine UInt64.le_trans hle (floorToMicros_le_floorToMicros ?_)
          exact ratio.ticksToNanos_le_ticksToNanos (add_le_newest hcounter hfits hmem)
    | _ => trivial
  | _ => trivial

end Newest

end ClockAnswer

/-! ## Runs -/

namespace ClockRun

variable {m : Machine σ} {act : ε → σ → σ} {coarseLags : Prop}

/-- The published offset fits, every answer is bounded, and none is ahead of a later one. -/
structure InOrder (coarseLags : Prop) (run : ClockRun (σ × List (MachineRecord σ))) : Prop where
  offsetFits : run.clock.OffsetFits
  bounded : ∀ answer ∈ run.answers, answer.Bounded run.state.2 run.clock
  notAhead : run.answers.Pairwise fun later earlier => earlier.NotAhead coarseLags later

/-- A later moment without a new answer is in order. -/
theorem InOrder.grows {run : ClockRun (σ × List (MachineRecord σ))} {c : Clock}
    {s : σ × List (MachineRecord σ)} (h : InOrder coarseLags run)
    (hgrows : Grows run.state.2 run.clock s.2 c) (hfits : c.OffsetFits)
    (hcounter : CounterOrdered s.2) (attempts : List (Except ClockError RefreshOutcome)) :
    InOrder coarseLags ⟨c, s, run.answers, attempts⟩ where
  offsetFits := hfits
  bounded answer hmem := (h.bounded answer hmem).grows hgrows hcounter hfits
  notAhead := h.notAhead

/-- A new answer that is bounded, and that no earlier one is ahead of, is in order. -/
theorem InOrder.cons {run : ClockRun (σ × List (MachineRecord σ))} {answer : ClockAnswer}
    (h : InOrder coarseLags run) (hbounded : answer.Bounded run.state.2 run.clock)
    (hnotAhead : ∀ earlier ∈ run.answers, earlier.NotAhead coarseLags answer) :
    InOrder coarseLags { run with answers := answer :: run.answers } where
  offsetFits := h.offsetFits
  bounded := List.forall_mem_cons.mpr ⟨hbounded, h.bounded⟩
  notAhead := List.pairwise_cons.mpr ⟨hnotAhead, h.notAhead⟩

/-- An operation that advances the clock and then makes more calls leaves a moment in order to which
its answer is to be added. -/
theorem InOrder.advance {run : ClockRun (σ × List (MachineRecord σ))} {c : Clock}
    {t u : σ × List (MachineRecord σ)} {outcome? : Option (Except ClockError RefreshOutcome)}
    (h : InOrder coarseLags run)
    (hadvanced : Clock.Advanced m.recorded run.clock run.state outcome? c t)
    (hsuffix : t.2 <:+ u.2) (hcounter : CounterOrdered u.2) :
    InOrder coarseLags ⟨c, u, run.answers, outcome?.toList ++ run.attempts⟩ := by
  obtain ⟨hgrows, hfits⟩ := hadvanced.grows h.offsetFits
  exact h.grows ⟨hgrows.records.trans hsuffix, hgrows.ratio, hgrows.addend⟩ hfits hcounter _

section Read

variable {run : ClockRun (σ × List (MachineRecord σ))} {c : Clock}
  {t u : σ × List (MachineRecord σ)} {ticks : UInt64}
  {outcome? : Option (Except ClockError RefreshOutcome)} (h : InOrder coarseLags run)
  (hadvanced : Clock.Advanced m.recorded run.clock run.state outcome? c t)
  (hcounter : CounterOrdered u.2)

include h hadvanced hcounter

/-- A time of `monotonic` is in order. -/
theorem InOrder.monotonic (hticks : m.recorded.ticks t = (ticks, u)) :
    InOrder coarseLags
      ⟨c, u, .nanos .monotonic (.ok (floorToMicros
        ((Converter.ofRatio? c.ratio?).ticksToNanos (ticks + c.continuous.addend)))) :: run.answers,
          outcome?.toList ++ run.attempts⟩ := by
  cases hticks
  have hbefore := h.advance hadvanced List.suffix_rfl (hcounter.of_suffix (List.suffix_cons _ _))
  refine (h.advance hadvanced (List.suffix_cons _ _) hcounter).cons ?_ ?_
  · cases hratio : c.ratio? with
    | none =>
      -- before calibration the answer is zero
      left
      show floorToMicros 0 = 0
      decide
    | some ratio =>
      -- the newest read is its own bound
      exact .inr ⟨ratio, _, hratio, List.mem_cons_self, UInt64.le_refl _⟩
  · intro earlier hmem
    exact (hbefore.bounded earlier hmem).notAhead_monotonic hcounter hbefore.offsetFits

/-- A continuous count is in order. -/
theorem InOrder.continuousTime (hlags : coarseLags → CoarseLags u.2)
    (hticks : m.recorded.ticks t = (ticks, u)) :
    InOrder coarseLags
      ⟨c, u, .continuousTime (ticks + c.continuous.addend) :: run.answers,
        outcome?.toList ++ run.attempts⟩ := by
  cases hticks
  have hbefore := h.advance hadvanced List.suffix_rfl (hcounter.of_suffix (List.suffix_cons _ _))
  refine (h.advance hadvanced (List.suffix_cons _ _) hcounter).cons ?_ ?_
  · exact ⟨_, List.mem_cons_self, UInt64.le_refl _⟩
  · intro earlier hmem
    exact (hbefore.bounded earlier hmem).notAhead_continuousTime hcounter hbefore.offsetFits hlags

/-- An approximate count is in order. -/
theorem InOrder.continuousApproxTime (hticks : m.recorded.approxTicks t = (ticks, u)) :
    InOrder coarseLags
      ⟨c, u, .continuousApproxTime (ticks + c.continuous.addend) :: run.answers,
        outcome?.toList ++ run.attempts⟩ := by
  have hreads : m.recorded.Reads t u := .of_approxTicks hticks
  refine (h.advance hadvanced hreads.suffix hcounter).cons ?_ ?_
  · -- the sum may wrap here, which makes the answer smaller
    refine ⟨ticks, ?_, toNat_add_le _ _⟩
    rcases m.recorded_approxTicks with ⟨-, hread⟩ | ⟨-, hread⟩
    · rw [hread] at hticks
      cases hticks
      exact .inr List.mem_cons_self
    · rw [hread] at hticks
      cases hticks
      exact .inl List.mem_cons_self
  · intro earlier _
    exact ClockAnswer.notAhead_continuousApproxTime _ _ _

end Read

/-- What is in order before a step is in order after it, if the counter still is. -/
theorem Change.inOrder {step : ClockStep ε} {run run' : ClockRun (σ × List (MachineRecord σ))}
    (hchange : Change m.recorded (Machine.besideRecord act) step run run')
    (hcounter : CounterOrdered run'.state.2) (hlags : coarseLags → CoarseLags run'.state.2)
    (h : InOrder coarseLags run) : InOrder coarseLags run' := by
  cases hchange with
  | environment action =>
    exact h.grows (s := (act action run.state.1, run.state.2)) (.of_suffix _ List.suffix_rfl)
      h.offsetFits hcounter run.attempts
  | invalidated =>
    exact h.grows (.invalidateOffset _ _) h.offsetFits hcounter run.attempts
  | timeSet hset =>
    -- a setting adds to the record, and its answer is no count
    have hbefore := h.grows (.of_suffix _ (setTime_suffix hset)) h.offsetFits hcounter run.attempts
    refine hbefore.cons trivial ?_
    intro earlier _
    exact ClockAnswer.notAhead_of_not_isContinuous _ _ rfl
  | other hadvanced hreads hanswer =>
    have hbefore := h.advance hadvanced hreads.suffix hcounter
    refine hbefore.cons (ClockAnswer.bounded_of_not_isContinuous _ _ hanswer) ?_
    intro earlier _
    exact ClockAnswer.notAhead_of_not_isContinuous _ _ hanswer
  | monotonic hadvanced hticks => exact h.monotonic hadvanced hcounter hticks
  | continuous hadvanced hticks => exact h.continuousTime hadvanced hcounter hlags hticks
  | approx hadvanced hticks => exact h.continuousApproxTime hadvanced hcounter hticks

/-- Every run on a counter in order is in order. -/
theorem run_inOrder (m : Machine σ) (act : ε → σ → σ) (settings : Settings) (s : σ)
    (steps : List (ClockStep ε))
    (hcounter : CounterOrdered (record m act settings s steps))
    (hlags : coarseLags → CoarseLags (record m act settings s steps)) :
    InOrder coarseLags
      ((start m.recorded settings (s, [])).run m.recorded (Machine.besideRecord act) steps) := by
  refine run_keeps_recorded (P := fun records => CounterOrdered records ∧
    (coarseLags → CoarseLags records)) ?_ ?_ ?_ ⟨hcounter, hlags⟩
  · rintro older records hsuffix ⟨hcounter', hlags'⟩
    exact ⟨hcounter'.of_suffix hsuffix, fun hcoarse => (hlags' hcoarse).of_suffix hsuffix⟩
  · rintro step _ run run' hchange ⟨hcounter', hlags'⟩ hinOrder
    exact hchange.inOrder hcounter' hlags' hinOrder
  · intro _
    obtain ⟨outcome?, hadvanced, -⟩ := start_advanced m.recorded settings (s, [])
    -- a new clock has published nothing
    have hnew : Clock.OffsetFits ⟨settings, none, .new settings⟩ := by
      show (0 : UInt64).toNat < _
      decide
    refine ⟨(hadvanced.grows hnew).2, ?_, List.Pairwise.nil⟩
    intro answer hmem
    cases hmem

/-- In the answers of a run, the newest first, every time of `monotonic` is an answer, and neither
these times nor the continuous counts ever go back. -/
structure NeverBack (answers : List ClockAnswer) : Prop where
  monotonic_ok : ∀ answer, .nanos .monotonic answer ∈ answers → ∃ nanos, answer = .ok nanos
  monotonic_le : answers.Pairwise fun later earlier =>
    ∀ a b, earlier = .nanos .monotonic (.ok a) → later = .nanos .monotonic (.ok b) → a ≤ b
  continuous_le : answers.Pairwise fun later earlier =>
    ∀ a b, earlier = .continuousTime a → later = .continuousTime b → a ≤ b

/-- On any machine whose precise counter is in order over the calls of a run, the times of
`monotonic` and the continuous counts never go back. If the coarse counter lags the precise one, no
approximate count is ahead of a later continuous count either. -/
theorem answers_neverBack (m : Machine σ) (act : ε → σ → σ) (settings : Settings) (s : σ)
    (steps : List (ClockStep ε)) (hcounter : CounterOrdered (record m act settings s steps)) :
    NeverBack ((start m settings s).run m act steps).answers ∧
      (CoarseLags (record m act settings s steps) →
        ((start m settings s).run m act steps).answers.Pairwise fun later earlier =>
          ∀ a b, earlier = .continuousApproxTime a → later = .continuousTime b → a ≤ b) := by
  have hinOrder := run_inOrder m act settings s steps hcounter (fun h => h)
  have hanswers := (run_recorded m act settings s steps).answers
  have hnotAhead := hinOrder.notAhead
  have hbounded := hinOrder.bounded
  rw [hanswers] at hnotAhead hbounded
  -- the order of the answers is one relation, which says something about each pair of kinds
  refine ⟨⟨?_, ?_, ?_⟩, fun hlags => ?_⟩
  · intro answer hmem
    cases answer with
    | ok nanos => exact ⟨nanos, rfl⟩
    | error e => exact (hbounded _ hmem).elim
  · refine hnotAhead.imp ?_
    rintro later earlier hle a b rfl rfl
    exact hle
  · refine hnotAhead.imp ?_
    rintro later earlier hle a b rfl rfl
    exact hle
  · refine hnotAhead.imp ?_
    rintro later earlier hle a b rfl rfl
    exact hle hlags

/-- A machine with nanosecond ticks that does not tell its scale yet. -/
def mute : Simulated := (Simulated.withScale .identity).failScale true

/-- The clock is read before and after the machine tells its scale, and again after a sleep that an
estimate has noticed. -/
def lateScaleSteps : List (ClockStep (Simulated → Simulated)) :=
  [.environment (Simulated.setStep 1000), .nanos .monotonic,
    .environment (Simulated.failScale false), .nanos .monotonic, .continuousApproxTime,
    .environment (Simulated.sleep (.ofNanos 10000000)),
    .invalidateOffset, .continuousTime, .nanos .monotonic]

/-- The run of `lateScaleSteps` on a machine that is mute at first. -/
def lateScaleRun : ClockRun Simulated :=
  (start Simulated.machine .brief mute).run Simulated.machine id lateScaleSteps

/-- The simulated counters are in order, so the time of zero before the scale is known and the gap
of ten milliseconds over the sleep are steps forward. -/
theorem lateScaleRun_neverBack :
    CounterOrdered (record Simulated.machine id .brief mute lateScaleSteps) ∧
      CoarseLags (record Simulated.machine id .brief mute lateScaleSteps) ∧
      NeverBack lateScaleRun.answers ∧
      lateScaleRun.answers.Pairwise fun later earlier =>
        ∀ a b, earlier = .continuousApproxTime a → later = .continuousTime b → a ≤ b := by
  have hcounter : CounterOrdered (record Simulated.machine id .brief mute lateScaleSteps) := by
    decide +kernel
  have hlags : CoarseLags (record Simulated.machine id .brief mute lateScaleSteps) := by
    decide +kernel
  have h := answers_neverBack Simulated.machine id .brief mute lateScaleSteps hcounter
  exact ⟨hcounter, hlags, h.1, h.2 hlags⟩

end ClockRun

end SoftClock
