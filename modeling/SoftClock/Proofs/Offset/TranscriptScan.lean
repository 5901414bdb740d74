import SoftClock.Proofs.Offset.Transcript

/-!
# What a Transcript Shows

Two things can be read off the calls of sampling and their answers, without a look at the loops that
made them.

* `movedRuns` counts the runs that saw the boot time move. These are the runs that sampling discards
  (`SamplingEnds.movedRuns_eq`).
* The pairs that a record completes are those of the searches of its runs, and the calls of each of
  these searches stand together in the record (`SamplingEnds.completes`). In them every poll lies
  between two reads of the counter (`PairSearch.pollsBetweenTicks`).
-/

namespace SoftClock

variable {σ : Type}

/-! ## Runs in which the boot time moved -/

/-- The answer of a read of the boot time. -/
def MachineEvent.boot? : MachineEvent → Option (Except ClockError Timeval)
  | .boot answer => some answer
  | _ => none

/-- The reads of the boot time, the oldest first. -/
def bootReads (events : List MachineEvent) : List (Except ClockError Timeval) :=
  events.filterMap MachineEvent.boot?

/-- How many runs saw the boot time move. Each run reads it twice. -/
def movedRuns : List (Except ClockError Timeval) → ℕ
  | .ok before :: .ok after :: later => (if after = before then 0 else 1) + movedRuns later
  | _ => 0

section Moved

variable {settings : Settings} {allowed : UInt32} {error : ClockError}

@[simp]
theorem bootReads_append (events later : List MachineEvent) :
    bootReads (events ++ later) = bootReads events ++ bootReads later :=
  List.filterMap_append

@[simp]
theorem bootReads_boot (answer : Except ClockError Timeval) (later : List MachineEvent) :
    bootReads (.boot answer :: later) = answer :: bootReads later := rfl

/-- Polls do not read the boot time. -/
@[simp]
theorem bootReads_polls (polls : List PairedSample) :
    bootReads (polls.flatMap PairedSample.poll) = [] := by
  induction polls with
  | nil => rfl
  | cons poll polls ih =>
    rw [List.flatMap_cons, bootReads_append, ih]
    rfl

/-- Searches do not read the boot time. -/
@[simp]
theorem bootReads_searches (searches : List (PairSearch allowed)) :
    bootReads (searches.flatMap PairSearch.events) = [] := by
  induction searches with
  | nil => rfl
  | cons x searches ih =>
    rw [List.flatMap_cons, bootReads_append, ih, List.append_nil]
    exact bootReads_polls x.polls

/-- A search that fails does not read the boot time. -/
theorem SearchEnds.bootReads_eq {answer : Except ClockError PairedSample}
    {events : List MachineEvent} (h : SearchEnds allowed answer events) :
    bootReads events = [] := by
  cases h with
  | found x => exact bootReads_polls x.polls
  | unstarted error => rfl
  | @unreadable start idle before error hidle hlt =>
    rw [bootReads_append]
    exact congrArg (· ++ []) (bootReads_polls idle)
  | @exhausted start idle hidle hlength => exact bootReads_polls idle

/-- A run that fails is none that saw the boot time move. -/
theorem RunFails.movedRuns_eq {events : List MachineEvent} (h : RunFails settings error events) :
    movedRuns (bootReads events) = 0 := by
  cases h with
  | boot error => rfl
  | search boot searches hlt hlast =>
    -- a single read of the boot time makes no run
    rw [bootReads_boot, bootReads_append, bootReads_searches, hlast.bootReads_eq]
    rfl
  | bootAfter boot searches error hlength =>
    rw [bootReads_boot, bootReads_append, bootReads_searches]
    rfl

/-- A run that is completed reads the boot time twice. -/
theorem bootReads_run (run : SampleRun settings) :
    bootReads run.events = [.ok run.boot, .ok run.bootAfter] := by
  rw [SampleRun.events, bootReads_append, bootReads_boot, bootReads_searches]
  rfl

/-- The reads of the boot time of runs that were completed. -/
theorem movedRuns_runs {discarded : List (SampleRun settings)}
    (hmoved : ∀ run ∈ discarded, run.bootAfter ≠ run.boot)
    (later : List (Except ClockError Timeval)) :
    movedRuns (bootReads (discarded.flatMap SampleRun.events) ++ later) =
      discarded.length + movedRuns later := by
  induction discarded with
  | nil =>
    rw [List.length_nil, Nat.zero_add]
    rfl
  | cons run discarded ih =>
    have hhere := hmoved run List.mem_cons_self
    have hrest := ih fun other hother => hmoved other (List.mem_cons_of_mem _ hother)
    rw [List.flatMap_cons, bootReads_append, bootReads_run, List.append_assoc]
    simp only [List.cons_append, List.nil_append, movedRuns, hhere, if_false, hrest,
      List.length_cons]
    omega

/-- The runs that sampling discards are those that saw the boot time move. -/
theorem SamplingEnds.movedRuns_eq {discarded : List (SampleRun settings)}
    {answer : Except ClockError BootSample} {events : List MachineEvent}
    (h : SamplingEnds settings discarded answer events)
    (hmoved : ∀ run ∈ discarded, run.bootAfter ≠ run.boot) :
    movedRuns (bootReads events) = discarded.length := by
  cases h with
  | kept last hle hstands hused =>
    rw [List.flatMap_append, bootReads_append, movedRuns_runs hmoved, List.flatMap_singleton,
      bootReads_run]
    simp [movedRuns, hstands]
  | @cut error last hle hfails =>
    rw [bootReads_append, movedRuns_runs hmoved, hfails.movedRuns_eq, Nat.add_zero]
  | restartedOut hlength =>
    rw [← List.append_nil (bootReads _), movedRuns_runs hmoved]
    rfl

end Moved

/-! ## Completed pairs -/

section Pairs

variable {settings : Settings} {allowed : UInt32} {error : ClockError} {pairs : List PairedSample}

/-- What a scan shows after some more calls. -/
def PairScan.through (scan : PairScan) (events : List MachineEvent) : PairScan :=
  events.foldl PairScan.next scan

@[simp]
theorem PairScan.through_nil (scan : PairScan) : scan.through [] = scan := rfl

@[simp]
theorem PairScan.through_append (scan : PairScan) (events later : List MachineEvent) :
    scan.through (events ++ later) = (scan.through events).through later :=
  List.foldl_append

/-- A read of the boot time ends what has begun of a pair. -/
@[simp]
theorem PairScan.through_boot (phase : PairPhase) (answer : Except ClockError Timeval)
    (later : List MachineEvent) :
    PairScan.through ⟨phase, pairs⟩ (.boot answer :: later) =
      PairScan.through ⟨.idle, pairs⟩ later := rfl

/-- A read of the wall clock begins the search for a pair. -/
@[simp]
theorem PairScan.through_start (start : Timeval) (later : List MachineEvent) :
    PairScan.through ⟨.idle, pairs⟩ (.wall (.ok start) :: later) =
      PairScan.through ⟨.waiting start, pairs⟩ later := rfl

/-- The scan of a record goes through its calls from the oldest to the newest. -/
theorem pairScan_eq_through (records : List (MachineRecord σ)) :
    pairScan records = PairScan.through {} (transcript records) := by
  induction records with
  | nil => rfl
  | cons record records ih =>
    have hcalls : transcript (record :: records) = transcript records ++ [record.event] := by
      simp [transcript]
    rw [pairScan, ih, hcalls, PairScan.through_append]
    rfl

/-- Polls that show the start again leave the search waiting. -/
theorem through_idle {start : Timeval} {idle : List PairedSample}
    (hidle : ∀ poll ∈ idle, poll.wall = start) :
    PairScan.through ⟨.waiting start, pairs⟩ (idle.flatMap PairedSample.poll) =
      ⟨.waiting start, pairs⟩ := by
  induction idle with
  | nil => rfl
  | cons poll idle ih =>
    have hpoll : PairScan.through ⟨.waiting start, pairs⟩ poll.poll = ⟨.waiting start, pairs⟩ :=
      if_pos (hidle poll List.mem_cons_self)
    rw [List.flatMap_cons, PairScan.through_append, hpoll]
    exact ih fun other hother => hidle other (List.mem_cons_of_mem _ hother)

/-- A search completes its pair. -/
theorem PairSearch.through_events (x : PairSearch allowed) :
    PairScan.through ⟨.idle, pairs⟩ x.events = ⟨.idle, x.pair :: pairs⟩ := by
  -- the scan waits through the idle polls, and the last one ends the wait
  rw [events, polls, PairScan.through_start, List.flatMap_append, PairScan.through_append,
    through_idle x.unchanged, List.flatMap_singleton]
  exact if_neg x.changed

/-- Searches complete their pairs. -/
theorem through_searches (searches : List (PairSearch allowed)) :
    PairScan.through ⟨.idle, pairs⟩ (searches.flatMap PairSearch.events) =
      ⟨.idle, (searches.map PairSearch.pair).reverse ++ pairs⟩ := by
  induction searches generalizing pairs with
  | nil => rfl
  | cons x searches ih =>
    rw [List.flatMap_cons, PairScan.through_append, x.through_events, ih]
    simp

/-- A search that fails completes no pair. -/
theorem SearchEnds.through_pairs {events : List MachineEvent}
    (h : SearchEnds allowed (.error error) events) :
    (PairScan.through ⟨.idle, pairs⟩ events).pairs = pairs := by
  cases h with
  | unstarted error => rfl
  | @unreadable start idle before error hidle hlt =>
    rw [PairScan.through_append, PairScan.through_start, through_idle hidle]
    rfl
  | @exhausted start idle hidle hlength =>
    rw [PairScan.through_start, through_idle hidle]

/-- Runs complete the pairs of their searches. -/
theorem through_runs (runs : List (SampleRun settings)) :
    PairScan.through ⟨.idle, pairs⟩ (runs.flatMap SampleRun.events) =
      ⟨.idle, ((runs.flatMap SampleRun.searches).map PairSearch.pair).reverse ++ pairs⟩ := by
  induction runs generalizing pairs with
  | nil => rfl
  | cons run runs ih =>
    rw [List.flatMap_cons, SampleRun.events, List.cons_append, List.cons_append,
      PairScan.through_boot, PairScan.through_append, PairScan.through_append, through_searches,
      PairScan.through_boot, PairScan.through_nil, ih]
    simp

/-- The calls of a search stand together in those of all searches. -/
theorem infix_searches {searches : List (PairSearch allowed)} {x : PairSearch allowed}
    (h : x ∈ searches) : x.events <:+: searches.flatMap PairSearch.events :=
  List.infix_of_mem_flatten (List.mem_map_of_mem h)

/-- The calls of a search stand together in those of all runs. -/
theorem infix_runs {runs : List (SampleRun settings)} {x : PairSearch settings.maxWallPolls}
    (h : x ∈ runs.flatMap SampleRun.searches) : x.events <:+: runs.flatMap SampleRun.events := by
  obtain ⟨run, hrun, hx⟩ := List.mem_flatMap.mp h
  have hsearch : x.events <:+: run.events :=
    (infix_searches hx).trans ⟨[.boot (.ok run.boot)], [.boot (.ok run.bootAfter)], rfl⟩
  exact hsearch.trans (List.infix_of_mem_flatten (List.mem_map_of_mem hrun))

/-- A run that fails completes the pairs of the searches before. -/
theorem RunFails.completes {events : List MachineEvent} (h : RunFails settings error events) :
    ∃ searches : List (PairSearch settings.maxWallPolls),
      (∀ pairs, (PairScan.through ⟨.idle, pairs⟩ events).pairs =
        (searches.map PairSearch.pair).reverse ++ pairs) ∧
      ∀ x ∈ searches, x.events <:+: events := by
  cases h with
  | boot error => exact ⟨[], fun _ => rfl, by simp⟩
  | @search boot searches error last hlt hlast =>
    refine ⟨searches, fun pairs => ?_, fun x hx => (infix_searches hx).trans ?_⟩
    · rw [PairScan.through_boot, PairScan.through_append, through_searches, hlast.through_pairs]
    · exact ⟨[.boot (.ok boot)], last, rfl⟩
  | bootAfter boot searches error hlength =>
    refine ⟨searches, fun pairs => ?_, fun x hx => (infix_searches hx).trans ?_⟩
    · rw [PairScan.through_boot, PairScan.through_append, through_searches]
      rfl
    · exact ⟨[.boot (.ok boot)], [.boot (.error error)], rfl⟩

/-- The pairs that the calls of sampling complete are those of its searches, the newest first, and
the calls of each search stand together. -/
theorem SamplingEnds.completes {discarded : List (SampleRun settings)}
    {answer : Except ClockError BootSample} {events : List MachineEvent}
    (h : SamplingEnds settings discarded answer events) :
    ∃ searches : List (PairSearch settings.maxWallPolls),
      (PairScan.through {} events).pairs = (searches.map PairSearch.pair).reverse ∧
      ∀ x ∈ searches, x.events <:+: events := by
  cases h with
  | kept last hle hstands hused =>
    refine ⟨(discarded ++ [last]).flatMap SampleRun.searches, ?_, fun x hx => infix_runs hx⟩
    rw [through_runs, List.append_nil]
  | @cut error last hle hfails =>
    obtain ⟨searches, hpairs, htogether⟩ := hfails.completes
    refine ⟨discarded.flatMap SampleRun.searches ++ searches, ?_, fun x hx => ?_⟩
    · rw [PairScan.through_append, through_runs, hpairs]
      simp
    · rcases List.mem_append.mp hx with hx | hx
      · exact (infix_runs hx).trans (List.prefix_append _ _).isInfix
      · exact (htogether x hx).trans (List.suffix_append _ _).isInfix
  | restartedOut hlength =>
    refine ⟨discarded.flatMap SampleRun.searches, ?_, fun x hx => infix_runs hx⟩
    rw [through_runs, List.append_nil]

/-- In a row of polls each read of the wall clock lies between two reads of the counter. -/
theorem between_of_polls {polls : List PairedSample} {front back : List MachineEvent}
    {answer : Except ClockError Timeval}
    (h : polls.flatMap PairedSample.poll = front ++ .wall answer :: back) :
    ∃ earlier before after later,
      front = earlier ++ [.ticks before] ∧ back = .ticks after :: later := by
  induction polls generalizing front with
  | nil => simp at h
  | cons poll polls ih =>
    rw [List.flatMap_cons, PairedSample.poll] at h
    -- the read is the one in the first poll, or it is in a later one
    match front, h with
    | [], h => cases h
    | [_], h =>
      cases h
      exact ⟨[], poll.before, poll.after, _, rfl, rfl⟩
    | [_, _], h => cases h
    | first :: second :: third :: front, h =>
      injection h with _ h
      injection h with _ h
      injection h with _ h
      obtain ⟨earlier, before, after, later, rfl, rfl⟩ := ih h
      exact ⟨first :: second :: third :: earlier, before, after, later, rfl, rfl⟩

/-- The reads of the wall clock of a search lie directly between two reads of the counter, all but
the one before its polls. -/
theorem PairSearch.pollsBetweenTicks (x : PairSearch allowed) {front back : List MachineEvent}
    {answer : Except ClockError Timeval} (h : x.events = front ++ .wall answer :: back)
    (hfront : front ≠ []) :
    ∃ earlier before after later,
      front = earlier ++ [.ticks before] ∧ back = .ticks after :: later := by
  cases front with
  | nil => exact absurd rfl hfront
  | cons first front =>
    injection h with _ h
    obtain ⟨earlier, before, after, later, rfl, rfl⟩ := between_of_polls h
    exact ⟨first :: earlier, before, after, later, rfl, rfl⟩

end Pairs

end SoftClock
