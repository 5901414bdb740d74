import SoftClock.Proofs.Machine.Recorded
import SoftClock.Proofs.Offset.Sampling

/-!
# Pairs in a Record of Calls

The pairs that a record of calls completes, read off the calls and their answers alone. A pair takes
a read of the wall clock and then polls, each of them a read of the wall clock between two reads of
the counter, up to the first one that shows another value. A call that does not belong there starts
the search for a pair anew.

* `completedPairs` are the pairs of a record, however the sampling around them ended;
* `IsTightest` says what the best bracket of some pairs is;
* `takeSample_tightest`: sampling keeps the best bracket of all pairs that its calls complete, those
  of abandoned and of restarted runs included.
-/

namespace SoftClock

variable {σ : Type} {m : Machine σ}

/-! ## Reading a record -/

/-- How far a record has come with a pair. -/
inductive PairPhase where
  /-- No pair is being taken. -/
  | idle
  /-- The wall clock has shown `start`, and is polled for another value. -/
  | waiting (start : Timeval)
  /-- A poll has read the counter. -/
  | polling (start : Timeval) (before : UInt64)
  /-- A poll has read the counter and then the wall clock. -/
  | polled (start : Timeval) (before : UInt64) (wall : Timeval)

/-- What a record shows of pairs. -/
structure PairScan where
  phase : PairPhase := .idle
  /-- The completed pairs, the newest first. -/
  pairs : List PairedSample := []

/-- What one more call shows. -/
def PairScan.next (scan : PairScan) : MachineEvent → PairScan
  | .wall (.ok time) =>
    match scan.phase with
    | .polling start before => { scan with phase := .polled start before time }
    | _ => { scan with phase := .waiting time }
  | .ticks ticks =>
    match scan.phase with
    | .waiting start => { scan with phase := .polling start ticks }
    | .polled start before wall =>
      if wall = start then { scan with phase := .waiting start }
      else ⟨.idle, ⟨wall, before, ticks⟩ :: scan.pairs⟩
    | _ => { scan with phase := .idle }
  | _ => { scan with phase := .idle }

/-- What the calls of a record show of pairs. The newest call stands first. -/
def pairScan : List (MachineRecord σ) → PairScan
  | [] => {}
  | record :: older => (pairScan older).next record.event

/-- The pairs that the calls of a record complete, the newest first. -/
def completedPairs (records : List (MachineRecord σ)) : List PairedSample :=
  (pairScan records).pairs

/-! ## The best bracket -/

/-- The best bracket of some pairs. The widest possible bracket says nothing and is never the best
one. -/
structure IsTightest (best : Option UInt64) (pairs : List PairedSample) : Prop where
  none_iff : best = none ↔ ¬ ∃ pair ∈ pairs, pair.bracket < 0xffffffffffffffff
  mem : ∀ bracket, best = some bracket → ∃ pair ∈ pairs, pair.bracket = bracket
  le : ∀ bracket, best = some bracket → ∀ pair ∈ pairs, bracket ≤ pair.bracket

/-- No word is above the largest one. -/
theorem le_largest (w : UInt64) : w ≤ 0xffffffffffffffff :=
  UInt64.le_iff_toNat_le.mpr (Nat.le_of_lt_succ w.toNat_lt)

namespace IsTightest

/-- Without pairs there is no best bracket. -/
theorem nil : IsTightest none [] where
  none_iff := by simp
  mem := by simp
  le := by simp

variable {best : Option UInt64} {pairs : List PairedSample} {pair : PairedSample}

/-- One more pair of the widest bracket changes nothing. -/
theorem cons_widest (h : IsTightest best pairs) (hwidest : pair.bracket = 0xffffffffffffffff) :
    IsTightest best (pair :: pairs) where
  none_iff := by
    rw [h.none_iff]
    simp [hwidest]
  mem bracket hbest := by
    obtain ⟨tightest, hmem, hbracket⟩ := h.mem bracket hbest
    exact ⟨tightest, List.mem_cons_of_mem _ hmem, hbracket⟩
  le bracket hbest other hother := by
    rcases List.mem_cons.mp hother with rfl | hother
    · exact hwidest ▸ le_largest bracket
    · exact h.le bracket hbest other hother

/-- The best bracket with one more pair is that pair's or the one before, whichever is smaller. -/
theorem cons_min (h : IsTightest best pairs) (hwidest : pair.bracket ≠ 0xffffffffffffffff) :
    IsTightest (some ((best.map (min pair.bracket)).getD pair.bracket)) (pair :: pairs) := by
  have hlt : pair.bracket < 0xffffffffffffffff :=
    UInt64.lt_of_le_of_ne (le_largest _) hwidest
  refine ⟨⟨fun hnone => (Option.some_ne_none _ hnone).elim, fun hnone => ?_⟩, ?_, ?_⟩
  · exact absurd ⟨pair, List.mem_cons_self, hlt⟩ hnone
  · intro bracket hbest
    rw [Option.some.injEq] at hbest
    cases best with
    | none => exact ⟨pair, List.mem_cons_self, hbest⟩
    | some b =>
      obtain ⟨tightest, hmem, hbracket⟩ := h.mem b rfl
      change min pair.bracket b = bracket at hbest
      rcases Std.min_eq_or (a := pair.bracket) (b := b) with hmin | hmin
      · exact ⟨pair, List.mem_cons_self, hmin.symm.trans hbest⟩
      · exact ⟨tightest, List.mem_cons_of_mem _ hmem, hbracket.trans (hmin.symm.trans hbest)⟩
  · intro bracket hbest other hother
    rw [Option.some.injEq] at hbest
    subst hbest
    cases best with
    | none =>
      -- all pairs before had the widest bracket
      rcases List.mem_cons.mp hother with rfl | hother
      · exact UInt64.le_refl _
      · refine UInt64.not_lt.mp fun hother_lt => h.none_iff.mp rfl ⟨other, hother, ?_⟩
        exact UInt64.lt_trans hother_lt hlt
    | some b =>
      show min pair.bracket b ≤ other.bracket
      rcases List.mem_cons.mp hother with rfl | hother
      · exact Std.min_le_left
      · exact UInt64.le_trans Std.min_le_right (h.le b rfl other hother)

/-- Noting the bracket of one more pair gives the best bracket with it. -/
theorem recordBracket {c : Counters} (h : IsTightest c.bestBracket pairs) (pair : PairedSample) :
    IsTightest (c.recordBracket pair.bracket).bestBracket (pair :: pairs) := by
  rw [Counters.recordBracket]
  split
  · rename_i hwidest
    exact h.cons_widest hwidest
  · rename_i hwidest
    exact h.cons_min hwidest

end IsTightest

/-! ## What sampling completes -/

/-- A scan after the search for a pair that began with `pairs` completed: the new pair is there if
one was found, and nothing else. -/
def PairScan.Completes (pairs : List PairedSample) (answer : Except ClockError PairedSample)
    (scan : PairScan) : Prop :=
  match answer with
  | .ok pair => scan = ⟨.idle, pair :: pairs⟩
  | .error _ => scan.pairs = pairs

section Sampling

variable {s t : σ × List (MachineRecord σ)} {pairs older : List PairedSample}

/-- A poll that shows the start again leaves the search waiting. Any other completes its pair. -/
theorem pairScan_poll {start wall : Timeval} {before after : UInt64}
    {d e f : σ × List (MachineRecord σ)} (hscan : pairScan s.2 = ⟨.waiting start, pairs⟩)
    (hbefore : m.recorded.ticks s = (before, d)) (hwall : m.recorded.wall d = (.ok wall, e))
    (hafter : m.recorded.ticks e = (after, f)) :
    pairScan f.2 =
      if wall = start then ⟨.waiting start, pairs⟩
      else ⟨.idle, ⟨wall, before, after⟩ :: pairs⟩ := by
  rw [(Machine.recording_eq hafter).2, pairScan, (Machine.recording_eq hwall).2, pairScan,
    (Machine.recording_eq hbefore).2, pairScan, hscan]
  rfl

/-- Polling completes the pair that it ends with, or none. -/
theorem awaitChange_completes {allowed : UInt32} {start : Timeval} {polls : ℕ}
    {answer : Except ClockError PairedSample}
    (h : awaitChange m.recorded allowed start polls s = (answer, t))
    (hscan : pairScan s.2 = ⟨.waiting start, pairs⟩) :
    (pairScan t.2).Completes pairs answer := by
  induction polls generalizing s with
  | zero =>
    cases h
    show (pairScan t.2).pairs = pairs
    rw [hscan]
  | succ polls ih =>
    cases awaitChange_succ h with
    | unreadable hbefore hwall =>
      show (pairScan t.2).pairs = pairs
      rw [(Machine.recording_eq hwall).2, pairScan, (Machine.recording_eq hbefore).2, pairScan,
        hscan]
      rfl
    | changed hbefore hwall hafter hne =>
      rw [pairScan_poll hscan hbefore hwall hafter, if_neg hne]
      rfl
    | idle hbefore hwall hafter hrest =>
      exact ih hrest ((pairScan_poll hscan hbefore hwall hafter).trans (if_pos rfl))

/-- The search for a pair completes the pair that it finds, or none. -/
theorem pairOnce_completes {allowed : UInt32} {answer : Except ClockError PairedSample}
    (h : pairOnce m.recorded allowed s = (answer, t)) (hidle : (pairScan s.2).phase = .idle) :
    (pairScan t.2).Completes (completedPairs s.2) answer := by
  obtain ⟨_, hwall, rfl⟩ | ⟨start, b, hwall, hpolls⟩ := pairOnce_cases h
  · show (pairScan t.2).pairs = (pairScan s.2).pairs
    rw [(Machine.recording_eq hwall).2]
    rfl
  · refine awaitChange_completes hpolls ?_
    rw [(Machine.recording_eq hwall).2, pairScan, PairScan.next, hidle]
    rfl

/-- The pair that a search finds counts as one more completed pair. -/
theorem pairOnce_counted {allowed : UInt32} {pair : PairedSample} {c : Counters}
    (h : pairOnce m.recorded allowed s = (.ok pair, t)) (hidle : (pairScan s.2).phase = .idle)
    (htightest : IsTightest c.bestBracket (completedPairs s.2 ++ older)) :
    (pairScan t.2).phase = .idle ∧
      IsTightest (c.recordBracket pair.bracket).bestBracket (completedPairs t.2 ++ older) := by
  have hcompletes : pairScan t.2 = ⟨.idle, pair :: completedPairs s.2⟩ := pairOnce_completes h hidle
  rw [completedPairs, hcompletes]
  exact ⟨rfl, htightest.recordBracket pair⟩

/-- Taking more pairs keeps the best bracket. -/
theorem improvePair_tightest {allowed : UInt32} {more : ℕ} {best : PairedSample} {c c' : Counters}
    {answer : Except ClockError PairedSample}
    (h : improvePair m.recorded allowed more best c s = (answer, c', t))
    (hidle : (pairScan s.2).phase = .idle)
    (htightest : IsTightest c.bestBracket (completedPairs s.2 ++ older)) :
    IsTightest c'.bestBracket (completedPairs t.2 ++ older) := by
  induction more generalizing best c s with
  | zero =>
    cases h
    exact htightest
  | succ more ih =>
    obtain ⟨_, hpair, -, rfl⟩ | ⟨pair, u, hpair, hmore⟩ := improvePair_succ h
    · rw [completedPairs, pairOnce_completes hpair hidle]
      exact htightest
    · obtain ⟨hphase, hcounted⟩ := pairOnce_counted hpair hidle htightest
      exact ih hmore hphase hcounted

/-- The pairs of one run keep the best bracket. -/
theorem bestPair_tightest {settings : Settings} {c c' : Counters}
    {answer : Except ClockError PairedSample}
    (h : bestPair m.recorded settings c s = (answer, c', t))
    (hidle : (pairScan s.2).phase = .idle)
    (htightest : IsTightest c.bestBracket (completedPairs s.2 ++ older)) :
    IsTightest c'.bestBracket (completedPairs t.2 ++ older) := by
  obtain ⟨_, hpair, -, rfl⟩ | ⟨pair, u, hpair, hmore⟩ := bestPair_cases h
  · rw [completedPairs, pairOnce_completes hpair hidle]
    exact htightest
  · obtain ⟨hphase, hcounted⟩ := pairOnce_counted hpair hidle htightest
    exact improvePair_tightest hmore hphase hcounted

/-- A read of the boot time ends the search for a pair, and completes none. -/
theorem boot_scan {answer : Except ClockError Timeval} (h : m.recorded.boot s = (answer, t)) :
    (pairScan t.2).phase = .idle ∧ completedPairs t.2 = completedPairs s.2 := by
  rw [completedPairs, (Machine.recording_eq h).2]
  exact ⟨rfl, rfl⟩

/-- Any number of runs keeps the best bracket, however they end. -/
theorem sampleRuns_tightest {settings : Settings} {runs : ℕ} {c c' : Counters}
    {answer : Except ClockError BootSample}
    (h : sampleRuns m.recorded settings runs c s = (answer, c', t))
    (htightest : IsTightest c.bestBracket (completedPairs s.2 ++ older)) :
    IsTightest c'.bestBracket (completedPairs t.2 ++ older) := by
  induction runs generalizing c s with
  | zero =>
    cases h
    exact htightest
  | succ runs ih =>
    -- the reads of the boot time around the pairs complete none
    have hpaired {boot : Except ClockError Timeval} {found : Except ClockError PairedSample}
        {c₂ : Counters} {b u : σ × List (MachineRecord σ)} (hboot : m.recorded.boot s = (boot, b))
        (hpair : bestPair m.recorded settings c b = (found, c₂, u)) :
        IsTightest c₂.bestBracket (completedPairs u.2 ++ older) :=
      bestPair_tightest hpair (boot_scan hboot).1 ((boot_scan hboot).2 ▸ htightest)
    cases sampleRuns_succ h with
    | unreadable hboot => exact (boot_scan hboot).2 ▸ htightest
    | unpaired hboot hpair => exact hpaired hboot hpair
    | unconfirmed hboot hpair hagain => exact (boot_scan hagain).2 ▸ hpaired hboot hpair
    | stands hboot hpair hagain => exact (boot_scan hagain).2 ▸ hpaired hboot hpair
    | moved hboot hpair hagain _ hrest =>
      -- the pairs of a run that starts over count as well
      have hcounted := hpaired hboot hpair
      rw [← (boot_scan hagain).2] at hcounted
      exact ih hrest hcounted

/-- Sampling keeps the best bracket of all pairs that its calls complete, however it ends. -/
theorem takeSample_tightest {settings : Settings} {c c' : Counters}
    {answer : Except ClockError BootSample}
    (h : takeSample m.recorded settings c s = (answer, c', t))
    (htightest : IsTightest c.bestBracket (completedPairs s.2 ++ older)) :
    IsTightest c'.bestBracket (completedPairs t.2 ++ older) :=
  sampleRuns_tightest h htightest

end Sampling

end SoftClock
