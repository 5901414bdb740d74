import SoftClock.Proofs.Offset.PairLog

/-!
# Transcripts of Sampling

What sampling asks a machine and what it hears, from the first call to the last. A transcript says
which runs were completed, what each of their polls showed, and at which call sampling stopped. Each
of the nested loops over polls, pairs and runs adds its calls to those that were made before it.

* `PairSearch` is the search for a pair that came to an end, `SampleRun` a run that read the boot
  time twice. Both carry what the loops guarantee of them.
* `SearchEnds`, `PairsEnd`, `RunEnds` and `SamplingEnds` relate an outcome to the calls that led to
  it, with every way to fail.
* `takeSample_ends`: sampling ends in one of these ways, on every machine, and counts a restart for
  each run that it discards.
-/

namespace SoftClock

variable {σ : Type} {m : Machine σ}

/-! ## Calls between two states -/

/-- The calls of a record with their answers, the oldest first. -/
def transcript (records : List (MachineRecord σ)) : List MachineEvent :=
  (records.map MachineRecord.event).reverse

/-- A recorded machine was called like this on the way from one state to another. -/
def CalledBetween (s t : σ × List (MachineRecord σ)) (events : List MachineEvent) : Prop :=
  transcript t.2 = transcript s.2 ++ events

namespace CalledBetween

variable {α : Type} {s t u : σ × List (MachineRecord σ)} {events later : List MachineEvent}

theorem refl (s : σ × List (MachineRecord σ)) : CalledBetween s s [] :=
  (List.append_nil _).symm

theorem trans (h : CalledBetween s t events) (h' : CalledBetween t u later) :
    CalledBetween s u (events ++ later) := by
  rw [CalledBetween, h', h, List.append_assoc]

/-- One more call. -/
theorem call {event : α → MachineEvent} {call : σ → α × σ} {answer : α}
    (h : CalledBetween s t events) (hcall : Machine.recording event call t = (answer, u)) :
    CalledBetween s u (events ++ [event answer]) := by
  refine h.trans ?_
  rw [CalledBetween, (Machine.recording_eq hcall).2]
  simp [transcript]

end CalledBetween

/-! ## The search for a pair -/

/-- The calls of a poll: the counter, the wall clock, and the counter again. -/
def PairedSample.poll (p : PairedSample) : List MachineEvent :=
  [.ticks p.before, .wall (.ok p.wall), .ticks p.after]

/-- The search for a pair that came to its end. -/
structure PairSearch (allowed : UInt32) where
  /-- What the wall clock showed before the polls. -/
  start : Timeval
  /-- The polls that showed it again. -/
  idle : List PairedSample
  /-- The poll that ended the search. -/
  pair : PairedSample
  unchanged : ∀ poll ∈ idle, poll.wall = start
  changed : pair.wall ≠ start
  length_lt : idle.length < allowed.toNat

namespace PairSearch

variable {allowed : UInt32}

/-- All polls of a search, the oldest first. -/
def polls (x : PairSearch allowed) : List PairedSample := x.idle ++ [x.pair]

/-- The calls of a search. -/
def events (x : PairSearch allowed) : List MachineEvent :=
  .wall (.ok x.start) :: x.polls.flatMap PairedSample.poll

/-- A search takes one poll at least, and no more than it is allowed. -/
theorem length_polls (x : PairSearch allowed) :
    1 ≤ x.polls.length ∧ x.polls.length ≤ allowed.toNat := by
  have hlt := x.length_lt
  rw [polls, List.length_append, List.length_singleton]
  omega

end PairSearch

/-- How the search for a pair ends, with the calls that it made. -/
inductive SearchEnds (allowed : UInt32) : Except ClockError PairedSample → List MachineEvent → Prop
  /-- A poll shows another value. -/
  | found (x : PairSearch allowed) : SearchEnds allowed (.ok x.pair) x.events
  /-- The wall clock cannot be read before the polls. -/
  | unstarted (error : ClockError) : SearchEnds allowed (.error error) [.wall (.error error)]
  /-- The wall clock cannot be read in a poll. -/
  | unreadable {start : Timeval} {idle : List PairedSample} (before : UInt64) (error : ClockError) :
    (∀ poll ∈ idle, poll.wall = start) → idle.length < allowed.toNat →
    SearchEnds allowed (.error error) (.wall (.ok start) :: idle.flatMap PairedSample.poll ++
      [.ticks before, .wall (.error error)])
  /-- All polls allowed show the same. -/
  | exhausted {start : Timeval} {idle : List PairedSample} :
    (∀ poll ∈ idle, poll.wall = start) → idle.length = allowed.toNat →
    SearchEnds allowed (.error (.samplingExhausted allowed))
      (.wall (.ok start) :: idle.flatMap PairedSample.poll)

section Search

variable {s₀ s t : σ × List (MachineRecord σ)} {allowed : UInt32}
  {answer : Except ClockError PairedSample}

/-- One more poll after the polls of a search. -/
theorem CalledBetween.poll {start wall : Timeval} {polls : List PairedSample}
    {before after : UInt64} {d e f : σ × List (MachineRecord σ)}
    (h : CalledBetween s₀ s (.wall (.ok start) :: polls.flatMap PairedSample.poll))
    (hbefore : m.recorded.ticks s = (before, d)) (hwall : m.recorded.wall d = (.ok wall, e))
    (hafter : m.recorded.ticks e = (after, f)) :
    CalledBetween s₀ f
      (.wall (.ok start) ::
        (polls ++ [PairedSample.mk wall before after]).flatMap PairedSample.poll) := by
  have hpoll := ((h.call hbefore).call hwall).call hafter
  rw [List.append_assoc, List.append_assoc] at hpoll
  rw [List.flatMap_append, List.flatMap_singleton]
  exact hpoll

/-- Polling that has been idle so far brings the search for a pair to an end. -/
theorem awaitChange_ends {start : Timeval} {polls : ℕ} (idle : List PairedSample)
    (h : awaitChange m.recorded allowed start polls s = (answer, t))
    (hidle : ∀ poll ∈ idle, poll.wall = start) (hcount : idle.length + polls = allowed.toNat)
    (hcalled : CalledBetween s₀ s (.wall (.ok start) :: idle.flatMap PairedSample.poll)) :
    ∃ events, CalledBetween s₀ t events ∧ SearchEnds allowed answer events := by
  induction polls generalizing s idle with
  | zero =>
    cases h
    exact ⟨_, hcalled, .exhausted hidle hcount⟩
  | succ polls ih =>
    have hlt : idle.length < allowed.toNat := by omega
    cases awaitChange_succ h with
    | unreadable hbefore hwall =>
      refine ⟨_, (hcalled.call hbefore).call hwall, ?_⟩
      rw [List.append_assoc]
      exact .unreadable _ _ hidle hlt
    | changed hbefore hwall hafter hne =>
      exact ⟨_, hcalled.poll hbefore hwall hafter, .found ⟨start, idle, _, hidle, hne, hlt⟩⟩
    | idle hbefore hwall hafter hrest =>
      -- one more poll was idle
      refine ih _ hrest ?_ ?_ (hcalled.poll hbefore hwall hafter)
      · exact List.forall_mem_append.mpr ⟨hidle, List.forall_mem_singleton.mpr rfl⟩
      · rw [List.length_append, List.length_singleton]
        omega

/-- The search for a pair ends in one of these ways. -/
theorem pairOnce_ends (h : pairOnce m.recorded allowed s = (answer, t)) :
    ∃ events, CalledBetween s t events ∧ SearchEnds allowed answer events := by
  obtain ⟨error, hstart, rfl⟩ | ⟨start, b, hstart, hpolls⟩ := pairOnce_cases h
  · exact ⟨_, (CalledBetween.refl s).call hstart, .unstarted error⟩
  · exact awaitChange_ends [] hpolls (by simp) (by simp) ((CalledBetween.refl s).call hstart)

end Search

/-! ## The pairs of a run -/

/-- The pair used is the first of the tightest: tighter than all before it, and no wider than any
after it. -/
def IsFirstTightest (pairs : List PairedSample) (used : PairedSample) : Prop :=
  ∃ older newer, pairs = older ++ used :: newer ∧
    (∀ pair ∈ older, used.bracket < pair.bracket) ∧ ∀ pair ∈ newer, used.bracket ≤ pair.bracket

namespace IsFirstTightest

theorem singleton (pair : PairedSample) : IsFirstTightest [pair] pair :=
  ⟨[], [], rfl, by simp, by simp⟩

/-- One more pair is used if it is tighter than the one used so far. -/
theorem concat {pairs : List PairedSample} {used : PairedSample} (h : IsFirstTightest pairs used)
    (pair : PairedSample) : IsFirstTightest (pairs ++ [pair]) (used.tighter pair) := by
  obtain ⟨older, newer, rfl, holder, hnewer⟩ := h
  rw [PairedSample.tighter]
  split
  · -- the new pair is tighter than the one used so far, and so than all of them
    rename_i htighter
    refine ⟨older ++ used :: newer, [], rfl, ?_, by simp⟩
    refine List.forall_mem_append.mpr ⟨?_, List.forall_mem_cons.mpr ⟨htighter, ?_⟩⟩
    · intro other hother
      exact UInt64.lt_trans htighter (holder other hother)
    · intro other hother
      exact UInt64.lt_of_lt_of_le htighter (hnewer other hother)
  · rename_i hwider
    refine ⟨older, newer ++ [pair], by simp, holder, ?_⟩
    exact List.forall_mem_append.mpr
      ⟨hnewer, List.forall_mem_singleton.mpr (UInt64.not_lt.mp hwider)⟩

end IsFirstTightest

/-- How taking a number of pairs ends, with the calls that it made. -/
inductive PairsEnd (allowed : UInt32) (number : ℕ) :
    Except ClockError PairedSample → List MachineEvent → Prop
  /-- All pairs were taken. -/
  | taken (searches : List (PairSearch allowed)) {used : PairedSample} :
    searches.length = number → IsFirstTightest (searches.map PairSearch.pair) used →
    PairsEnd allowed number (.ok used) (searches.flatMap PairSearch.events)
  /-- The search for one of them failed. -/
  | cut (searches : List (PairSearch allowed)) {error : ClockError} {last : List MachineEvent} :
    searches.length < number → SearchEnds allowed (.error error) last →
    PairsEnd allowed number (.error error) (searches.flatMap PairSearch.events ++ last)

section Pairs

variable {s₀ s t : σ × List (MachineRecord σ)} {c c' : Counters}
  {answer : Except ClockError PairedSample}

/-- A search that found its pair. -/
theorem SearchEnds.exists_eq {allowed : UInt32} {pair : PairedSample} {events : List MachineEvent}
    (h : SearchEnds allowed (.ok pair) events) :
    ∃ x : PairSearch allowed, x.pair = pair ∧ x.events = events := by
  cases h with
  | found x => exact ⟨x, rfl, rfl⟩

/-- Taking more pairs after some ends with all of them taken, or with a search that fails. -/
theorem improvePair_ends {allowed : UInt32} {more : ℕ} {best : PairedSample}
    (earlier : List (PairSearch allowed))
    (h : improvePair m.recorded allowed more best c s = (answer, c', t))
    (hbest : IsFirstTightest (earlier.map PairSearch.pair) best)
    (hcalled : CalledBetween s₀ s (earlier.flatMap PairSearch.events)) :
    ∃ events, CalledBetween s₀ t events ∧
      PairsEnd allowed (earlier.length + more) answer events := by
  induction more generalizing best c s earlier with
  | zero =>
    cases h
    exact ⟨_, hcalled, .taken earlier rfl hbest⟩
  | succ more ih =>
    obtain ⟨error, hpair, rfl, -⟩ | ⟨pair, u, hpair, hmore⟩ := improvePair_succ h
    · obtain ⟨events, hsearch, hends⟩ := pairOnce_ends hpair
      exact ⟨_, hcalled.trans hsearch, .cut earlier (by omega) hends⟩
    · obtain ⟨events, hsearch, hends⟩ := pairOnce_ends hpair
      obtain ⟨x, rfl, rfl⟩ := hends.exists_eq
      -- the pair joins the earlier ones, and the tighter of it and the best so far goes on
      have hrest := ih (earlier ++ [x]) hmore (by simpa using hbest.concat x.pair)
        (by simpa using hcalled.trans hsearch)
      rw [List.length_append, List.length_singleton, Nat.add_assoc, Nat.add_comm 1] at hrest
      exact hrest

/-- The pairs that a run takes. -/
def Settings.pairNumber (settings : Settings) : ℕ := max 1 settings.samplesPerAttempt.toNat

/-- Taking the pairs of a run ends with all of them taken, or with a search that fails. -/
theorem bestPair_ends {settings : Settings}
    (h : bestPair m.recorded settings c s = (answer, c', t)) :
    ∃ events, CalledBetween s t events ∧
      PairsEnd settings.maxWallPolls settings.pairNumber answer events := by
  have hnumber : settings.pairNumber = 1 + (settings.samplesPerAttempt.toNat - 1) := by
    rw [Settings.pairNumber]
    omega
  rw [hnumber]
  obtain ⟨error, hpair, rfl, -⟩ | ⟨pair, u, hpair, hmore⟩ := bestPair_cases h
  · obtain ⟨events, hsearch, hends⟩ := pairOnce_ends hpair
    exact ⟨_, hsearch, .cut [] (Nat.add_pos_left Nat.one_pos _) hends⟩
  · obtain ⟨events, hsearch, hends⟩ := pairOnce_ends hpair
    obtain ⟨x, rfl, rfl⟩ := hends.exists_eq
    exact improvePair_ends [x] hmore (.singleton x.pair) (by simpa using hsearch)

end Pairs

/-! ## The runs of sampling -/

/-- A run of sampling that read the boot time before and after its pairs. -/
structure SampleRun (settings : Settings) where
  boot : Timeval
  searches : List (PairSearch settings.maxWallPolls)
  bootAfter : Timeval
  length_eq : searches.length = settings.pairNumber

namespace SampleRun

variable {settings : Settings}

/-- The pairs that a run took, the oldest first. -/
def pairs (run : SampleRun settings) : List PairedSample := run.searches.map PairSearch.pair

/-- The calls of a run. -/
def events (run : SampleRun settings) : List MachineEvent :=
  .boot (.ok run.boot) :: run.searches.flatMap PairSearch.events ++ [.boot (.ok run.bootAfter)]

end SampleRun

/-- How a run fails before its second read of the boot time is answered, with the calls that it
made. -/
inductive RunFails (settings : Settings) : ClockError → List MachineEvent → Prop
  /-- The boot time cannot be read before the pairs. -/
  | boot (error : ClockError) : RunFails settings error [.boot (.error error)]
  /-- The search for one of the pairs fails. -/
  | search (boot : Timeval) (searches : List (PairSearch settings.maxWallPolls))
    {error : ClockError} {last : List MachineEvent} :
    searches.length < settings.pairNumber →
    SearchEnds settings.maxWallPolls (.error error) last →
    RunFails settings error
      (.boot (.ok boot) :: (searches.flatMap PairSearch.events ++ last))
  /-- The boot time cannot be read after the pairs. -/
  | bootAfter (boot : Timeval) (searches : List (PairSearch settings.maxWallPolls))
    (error : ClockError) :
    searches.length = settings.pairNumber →
    RunFails settings error
      (.boot (.ok boot) :: (searches.flatMap PairSearch.events ++ [.boot (.error error)]))

/-- How sampling ends after runs that it discarded because the boot time moved, with the calls that
it made. -/
inductive SamplingEnds (settings : Settings) (discarded : List (SampleRun settings)) :
    Except ClockError BootSample → List MachineEvent → Prop
  /-- The boot time stands still in a run, and the first of its tightest pairs is used. -/
  | kept (last : SampleRun settings) {used : PairedSample} :
    discarded.length ≤ settings.maxBootRestarts.toNat →
    last.bootAfter = last.boot → IsFirstTightest last.pairs used →
    SamplingEnds settings discarded (.ok ⟨last.boot, used⟩)
      ((discarded ++ [last]).flatMap SampleRun.events)
  /-- A run fails. -/
  | cut {error : ClockError} {last : List MachineEvent} :
    discarded.length ≤ settings.maxBootRestarts.toNat → RunFails settings error last →
    SamplingEnds settings discarded (.error error) (discarded.flatMap SampleRun.events ++ last)
  /-- The boot time moves in all runs allowed. -/
  | restartedOut :
    discarded.length = settings.maxBootRestarts.toNat + 1 →
    SamplingEnds settings discarded (.error (.samplingExhausted (settings.maxBootRestarts + 1)))
      (discarded.flatMap SampleRun.events)

section Runs

variable {s₀ s t : σ × List (MachineRecord σ)} {settings : Settings} {c c₀ c' : Counters}
  {answer : Except ClockError BootSample}

/-- The calls of a run that takes its pairs and then reads the boot time again. -/
theorem run_called {boot : Timeval} {used : PairedSample} {again : Except ClockError Timeval}
    {b u v : σ × List (MachineRecord σ)} (hboot : m.recorded.boot s = (.ok boot, b))
    (hpair : bestPair m.recorded settings c b = (.ok used, c', u))
    (hagain : m.recorded.boot u = (again, v)) :
    ∃ searches : List (PairSearch settings.maxWallPolls),
      searches.length = settings.pairNumber ∧
      IsFirstTightest (searches.map PairSearch.pair) used ∧
      CalledBetween s v
        (.boot (.ok boot) :: (searches.flatMap PairSearch.events ++ [.boot again])) := by
  obtain ⟨events, hpaired, hends⟩ := bestPair_ends hpair
  cases hends with
  | taken searches hlength hused =>
    exact ⟨searches, hlength, hused,
      ((CalledBetween.refl s).call hboot).trans (hpaired.call hagain)⟩

/-- Taking pairs counts no restart. -/
theorem bestPair_bootRestarts {found : Except ClockError PairedSample}
    (h : bestPair m.recorded settings c s = (found, c', t)) : c'.bootRestarts = c.bootRestarts :=
  (bestPair_gathered h).bootRestarts.trans (UInt64.add_zero _)

/-- How a run ends, told by its calls, while a number of runs is left after it. -/
inductive RunEnds (m : Machine σ) (settings : Settings) (runs : ℕ) (c : Counters)
    (s : σ × List (MachineRecord σ)) :
    Except ClockError BootSample → Counters → σ × List (MachineRecord σ) → Prop
  /-- The run fails. -/
  | failed {error : ClockError} {events : List MachineEvent} {c' : Counters}
    {t : σ × List (MachineRecord σ)} :
    CalledBetween s t events → RunFails settings error events →
    c'.bootRestarts = c.bootRestarts → RunEnds m settings runs c s (.error error) c' t
  /-- The boot time stands still, and the first of the tightest pairs is used. -/
  | kept (run : SampleRun settings) {used : PairedSample} {c' : Counters}
    {t : σ × List (MachineRecord σ)} :
    CalledBetween s t run.events → run.bootAfter = run.boot → IsFirstTightest run.pairs used →
    c'.bootRestarts = c.bootRestarts → RunEnds m settings runs c s (.ok ⟨run.boot, used⟩) c' t
  /-- The boot time moves, which counts as a restart. -/
  | discarded (run : SampleRun settings) {c₂ c' : Counters} {v t : σ × List (MachineRecord σ)}
    {answer : Except ClockError BootSample} :
    CalledBetween s v run.events → run.bootAfter ≠ run.boot →
    c₂.bootRestarts = c.bootRestarts + 1 →
    sampleRuns m.recorded settings runs c₂ v = (answer, c', t) →
    RunEnds m settings runs c s answer c' t

/-- A run ends in one of these ways. -/
theorem sampleRuns_runEnds {runs : ℕ}
    (h : sampleRuns m.recorded settings (runs + 1) c s = (answer, c', t)) :
    RunEnds m settings runs c s answer c' t := by
  -- in each case the calls so far are put in front of those of the search
  cases sampleRuns_succ h with
  | unreadable hboot => exact .failed ((CalledBetween.refl s).call hboot) (.boot _) rfl
  | unpaired hboot hpair =>
    obtain ⟨events, hpaired, hends⟩ := bestPair_ends hpair
    cases hends with
    | cut searches hlt hsearch =>
      exact .failed (((CalledBetween.refl s).call hboot).trans hpaired)
        (.search _ searches hlt hsearch) (bestPair_bootRestarts hpair)
  | unconfirmed hboot hpair hagain =>
    obtain ⟨searches, hlength, -, hcalled⟩ := run_called hboot hpair hagain
    exact .failed hcalled (.bootAfter _ searches _ hlength) (bestPair_bootRestarts hpair)
  | stands hboot hpair hagain =>
    obtain ⟨searches, hlength, hused, hcalled⟩ := run_called hboot hpair hagain
    exact .kept ⟨_, searches, _, hlength⟩ hcalled rfl hused (bestPair_bootRestarts hpair)
  | moved hboot hpair hagain hmoved hrest =>
    obtain ⟨searches, hlength, -, hcalled⟩ := run_called hboot hpair hagain
    refine .discarded ⟨_, searches, _, hlength⟩ hcalled hmoved ?_ hrest
    exact congrArg (· + 1) (bestPair_bootRestarts hpair)

/-- Sampling that has discarded some runs so far ends in one of these ways. Each run that it
discards is counted as a restart. -/
theorem sampleRuns_ends {runs : ℕ} (earlier : List (SampleRun settings))
    (h : sampleRuns m.recorded settings runs c s = (answer, c', t))
    (hmoved : ∀ run ∈ earlier, run.bootAfter ≠ run.boot)
    (hcount : earlier.length + runs = settings.maxBootRestarts.toNat + 1)
    (hcalled : CalledBetween s₀ s (earlier.flatMap SampleRun.events))
    (hrestarts : c.bootRestarts = c₀.bootRestarts + .ofNat earlier.length) :
    ∃ discarded events, CalledBetween s₀ t events ∧ SamplingEnds settings discarded answer events ∧
      (∀ run ∈ discarded, run.bootAfter ≠ run.boot) ∧
      c'.bootRestarts = c₀.bootRestarts + .ofNat discarded.length := by
  induction runs generalizing c s earlier with
  | zero =>
    cases h
    exact ⟨earlier, _, hcalled, .restartedOut hcount, hmoved, hrestarts⟩
  | succ runs ih =>
    have hroom : earlier.length ≤ settings.maxBootRestarts.toNat := by omega
    have hconcat {run : SampleRun settings} {v : σ × List (MachineRecord σ)}
        (hrun : CalledBetween s v run.events) :
        CalledBetween s₀ v ((earlier ++ [run]).flatMap SampleRun.events) := by
      rw [List.flatMap_append, List.flatMap_singleton]
      exact hcalled.trans hrun
    cases sampleRuns_runEnds h with
    | failed hrun hfails hkept =>
      -- the calls of the run that fails come after those of the discarded ones
      exact ⟨earlier, _, hcalled.trans hrun, .cut hroom hfails, hmoved, hkept.trans hrestarts⟩
    | kept run hrun hstands hused hkept =>
      exact ⟨earlier, _, hconcat hrun, .kept run hroom hstands hused, hmoved,
        hkept.trans hrestarts⟩
    | discarded run hrun hmovedHere hcounted hrest =>
      refine ih (earlier ++ [run]) hrest ?_ ?_ (hconcat hrun) ?_
      · exact List.forall_mem_append.mpr ⟨hmoved, List.forall_mem_singleton.mpr hmovedHere⟩
      · rw [List.length_append, List.length_singleton]
        omega
      · rw [hcounted, hrestarts, List.length_append, UInt64.ofNat_add, UInt64.add_assoc]
        rfl

/-- Sampling ends in one of these ways, and counts the runs that it discards. -/
theorem takeSample_ends (h : takeSample m.recorded settings c s = (answer, c', t)) :
    ∃ discarded events, CalledBetween s t events ∧ SamplingEnds settings discarded answer events ∧
      (∀ run ∈ discarded, run.bootAfter ≠ run.boot) ∧
      c'.bootRestarts = c.bootRestarts + .ofNat discarded.length :=
  sampleRuns_ends [] h (by simp) (by simp) (.refl s) (UInt64.add_zero _).symm

end Runs

end SoftClock
