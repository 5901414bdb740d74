import SoftClock.Proofs.Offset.Selection
import SoftClock.Proofs.Offset.TranscriptScan
import Mathlib.Algebra.Order.BigOperators.Group.List

/-!
# The Calls of an Estimate

Which calls a refresh makes, and how many. A poll reads the counter, the wall clock and the counter
again; a search reads the wall clock and polls it; a run reads the boot time, searches for its pairs
and reads the boot time again; sampling is one run after the other.

* `samplingWord` spells the calls of sampling out, by the number of polls of each pair of each run,
  and `IsSchedule` says which numbers the settings allow;
* `SamplingEnds.spells` and `SamplingEnds.cut_short`: a sample takes the calls of such a word, and a
  failure those of its beginning;
* `length_samplingWord_le`: no such word is longer than the settings say;
* `Estimator.KeepsProtocol` puts this together with what the transcript shows of restarts and pairs,
  and `Estimator.refresh_keepsProtocol` states it for every machine, converter and settings.
-/

namespace SoftClock

variable {σ : Type} {m : Machine σ}

/-- The calls of a record, the oldest first. -/
def callsMade (records : List (MachineRecord σ)) : List MachineCall :=
  (transcript records).map MachineEvent.call

/-! ## Words of calls -/

/-- The calls of a poll. -/
def pollWord : List MachineCall := [.ticks, .wall, .ticks]

/-- The calls of some polls, one after the other. -/
def pollsWord (polls : ℕ) : List MachineCall := (List.replicate polls pollWord).flatten

/-- The calls of the search for a pair that takes a number of polls. -/
def searchWord (polls : ℕ) : List MachineCall := .wall :: pollsWord polls

/-- The calls of a run whose pairs take these numbers of polls. -/
def runWord (polls : List ℕ) : List MachineCall := .boot :: polls.flatMap searchWord ++ [.boot]

/-- The calls of some runs, one after the other. -/
def samplingWord (runs : List (List ℕ)) : List MachineCall := runs.flatMap runWord

/-- A number of polls that the settings allow for a pair: none only if no poll is allowed. -/
structure Settings.AllowsPolls (settings : Settings) (polls : ℕ) : Prop where
  pos : settings.maxWallPolls ≠ 0 → 1 ≤ polls
  le : polls ≤ settings.maxWallPolls.toNat

/-- Numbers of polls, for each pair of a run, that the settings allow. -/
structure Settings.AllowsRun (settings : Settings) (run : List ℕ) : Prop where
  pairs : run.length = max 1 settings.samplesPerAttempt.toNat
  polls : ∀ polls ∈ run, settings.AllowsPolls polls

/-- Numbers of polls, for each pair of each run, that the settings allow. -/
structure IsSchedule (settings : Settings) (runs : List (List ℕ)) : Prop where
  runs_pos : 1 ≤ runs.length
  runs_le : runs.length ≤ settings.maxBootRestarts.toNat + 1
  run : ∀ run ∈ runs, settings.AllowsRun run

theorem pollsWord_add (k l : ℕ) : pollsWord (k + l) = pollsWord k ++ pollsWord l := by
  rw [pollsWord, List.replicate_add, List.flatten_append]
  rfl

/-- A row of pairs may all take as many polls as are allowed. -/
theorem Settings.allowsPolls_of_mem_replicate {settings : Settings} {polls n : ℕ}
    (h : polls ∈ List.replicate n settings.maxWallPolls.toNat) : settings.AllowsPolls polls := by
  rw [List.eq_of_mem_replicate h]
  exact ⟨fun hsome => UInt32.pos_iff_ne_zero.mpr hsome, le_rfl⟩

/-- All pairs of a run may take as many polls as are allowed. -/
theorem Settings.allowsRun_all (settings : Settings) : settings.AllowsRun
    (List.replicate (max 1 settings.samplesPerAttempt.toNat) settings.maxWallPolls.toNat) where
  pairs := List.length_replicate
  polls := fun _ hmem => allowsPolls_of_mem_replicate hmem

/-! ## How long a word is -/

theorem length_searchWord (polls : ℕ) : (searchWord polls).length = 1 + 3 * polls := by
  simp [searchWord, pollsWord, pollWord]
  omega

/-- A word of parts that are no longer than `n`. -/
theorem length_flatMap_le {α β : Type} {l : List α} {f : α → List β} {n : ℕ}
    (h : ∀ a ∈ l, (f a).length ≤ n) : (l.flatMap f).length ≤ l.length * n := by
  rw [List.length_flatMap]
  refine le_trans (List.sum_le_card_nsmul _ n ?_) ?_
  · simpa using h
  · simp

/-- No word of a schedule is longer than all runs, pairs and polls that the settings allow. -/
theorem length_samplingWord_le {settings : Settings} {runs : List (List ℕ)}
    (h : IsSchedule settings runs) :
    (samplingWord runs).length ≤ (settings.maxBootRestarts.toNat + 1) *
      (2 + max 1 settings.samplesPerAttempt.toNat * (1 + 3 * settings.maxWallPolls.toNat)) := by
  refine le_trans (length_flatMap_le fun run hrun => ?_) (Nat.mul_le_mul_right _ h.runs_le)
  have hsearches : (run.flatMap searchWord).length ≤
      run.length * (1 + 3 * settings.maxWallPolls.toNat) := by
    refine length_flatMap_le fun polls hpolls => ?_
    have hle := ((h.run run hrun).polls polls hpolls).le
    rw [length_searchWord]
    omega
  rw [(h.run run hrun).pairs] at hsearches
  rw [runWord, List.length_append, List.length_cons, List.length_singleton]
  omega

/-- The calls of sampling are reads of the boot time, the wall clock and the counter. -/
theorem mem_samplingWord {runs : List (List ℕ)} {call : MachineCall}
    (h : call ∈ samplingWord runs) : call = .boot ∨ call = .wall ∨ call = .ticks := by
  have hpolls {k : ℕ} (hmem : call ∈ pollsWord k) : call = .wall ∨ call = .ticks := by
    obtain ⟨poll, hpoll, hmem⟩ := List.mem_flatten.mp hmem
    rw [List.eq_of_mem_replicate hpoll] at hmem
    simp only [pollWord, List.mem_cons, List.not_mem_nil, or_false] at hmem
    rcases hmem with h | h | h
    · exact .inr h
    · exact .inl h
    · exact .inr h
  obtain ⟨run, -, hmem⟩ := List.mem_flatMap.mp h
  simp only [runWord, List.cons_append, List.mem_cons, List.mem_append, List.not_mem_nil,
    or_false] at hmem
  -- a run reads the boot time at both ends, and the wall clock before the polls of each pair
  rcases hmem with hboot | hmem | hboot
  · exact .inl hboot
  · obtain ⟨polls, -, hmem⟩ := List.mem_flatMap.mp hmem
    rcases List.mem_cons.mp hmem with hwall | hmem
    · exact .inr (.inl hwall)
    · exact .inr (hpolls hmem)
  · exact .inl hboot

/-! ## The words of sampling -/

section Words

variable {settings : Settings} {allowed : UInt32} {error : ClockError} {events : List MachineEvent}

/-- Polls spell their word. -/
theorem calls_polls (polls : List PairedSample) :
    (polls.flatMap PairedSample.poll).map MachineEvent.call = pollsWord polls.length := by
  induction polls with
  | nil => rfl
  | cons poll polls ih =>
    rw [List.flatMap_cons, List.map_append, ih, List.length_cons, Nat.add_comm, pollsWord_add]
    rfl

/-- A search spells its word. -/
theorem PairSearch.calls_events (x : PairSearch allowed) :
    x.events.map MachineEvent.call = searchWord x.polls.length := by
  rw [PairSearch.events, List.map_cons, calls_polls]
  rfl

theorem PairSearch.allowsPolls (x : PairSearch settings.maxWallPolls) :
    settings.AllowsPolls x.polls.length where
  pos := fun _ => x.length_polls.1
  le := x.length_polls.2

/-- The numbers of polls that searches took. -/
def pollCounts (searches : List (PairSearch allowed)) : List ℕ :=
  searches.map fun x => x.polls.length

/-- Searches spell their words. -/
theorem calls_searches (searches : List (PairSearch allowed)) :
    (searches.flatMap PairSearch.events).map MachineEvent.call =
      (pollCounts searches).flatMap searchWord := by
  rw [List.map_flatMap, pollCounts, List.flatMap_map]
  exact List.flatMap_congr fun x _ => x.calls_events

theorem allowsPolls_of_mem_pollCounts {searches : List (PairSearch settings.maxWallPolls)} {k : ℕ}
    (h : k ∈ pollCounts searches) : settings.AllowsPolls k := by
  obtain ⟨x, -, rfl⟩ := List.mem_map.mp h
  exact x.allowsPolls

/-- Runs spell their words. -/
theorem calls_runs (runs : List (SampleRun settings)) :
    (runs.flatMap SampleRun.events).map MachineEvent.call =
      samplingWord (runs.map fun run => pollCounts run.searches) := by
  rw [List.map_flatMap, samplingWord, List.flatMap_map]
  refine List.flatMap_congr fun run _ => ?_
  rw [SampleRun.events, runWord, List.cons_append, List.cons_append, List.map_cons, List.map_append,
    calls_searches]
  rfl

/-- A search that fails spells the beginning of the longest search allowed. -/
theorem SearchEnds.begins_searchWord (h : SearchEnds allowed (.error error) events) :
    events.map MachineEvent.call <+: searchWord allowed.toNat := by
  cases h with
  | unstarted error => exact ⟨pollsWord allowed.toNat, rfl⟩
  | @unreadable start idle before error hidle hlt =>
    obtain ⟨more, hmore⟩ := Nat.exists_eq_add_of_lt hlt
    -- the poll that fails lacks its second read of the counter
    refine ⟨.ticks :: pollsWord more, ?_⟩
    rw [hmore, Nat.add_assoc, Nat.add_comm more, searchWord, pollsWord_add, pollsWord_add,
      List.map_append, List.map_cons, calls_polls, List.cons_append, List.cons_append,
      List.append_assoc]
    rfl
  | @exhausted start idle hidle hlength =>
    rw [List.map_cons, calls_polls, hlength]
    exact List.prefix_rfl

/-- A run that fails spells the beginning of a run that the settings allow. -/
theorem RunFails.begins_runWord (h : RunFails settings error events) :
    ∃ run, settings.AllowsRun run ∧ events.map MachineEvent.call <+: runWord run := by
  cases h with
  | boot error => exact ⟨_, settings.allowsRun_all, _, rfl⟩
  | @search boot searches error last hlt hlast =>
    obtain ⟨more, hmore⟩ := Nat.exists_eq_add_of_lt hlt
    -- the search that fails, and all after it, might have taken all polls allowed
    refine ⟨pollCounts searches ++ List.replicate (more + 1) settings.maxWallPolls.toNat,
      ⟨?_, fun polls hmem => ?_⟩, ?_⟩
    · rw [pollCounts, List.length_append, List.length_map, List.length_replicate, ← Nat.add_assoc,
        ← hmore]
      rfl
    · rcases List.mem_append.mp hmem with hmem | hmem
      · exact allowsPolls_of_mem_pollCounts hmem
      · exact Settings.allowsPolls_of_mem_replicate hmem
    · obtain ⟨missing, hmissing⟩ := hlast.begins_searchWord
      rw [List.map_cons, List.map_append, calls_searches, runWord, List.replicate_succ,
        List.flatMap_append, List.flatMap_cons, ← hmissing]
      simp only [List.append_assoc, List.cons_append]
      exact List.cons_prefix_cons.mpr ⟨rfl, List.prefix_append_right_inj _ |>.mpr
        (List.prefix_append _ _)⟩
  | bootAfter boot searches error hlength =>
    refine ⟨pollCounts searches, ⟨?_, fun _ hmem => allowsPolls_of_mem_pollCounts hmem⟩, ?_⟩
    · rw [pollCounts, List.length_map, hlength]
      rfl
    · rw [List.map_cons, List.map_append, calls_searches]
      exact List.prefix_rfl

variable {discarded : List (SampleRun settings)}

/-- A run that was completed is one that the settings allow. -/
theorem SampleRun.allowsRun (run : SampleRun settings) :
    settings.AllowsRun (pollCounts run.searches) where
  pairs := by
    rw [pollCounts, List.length_map, run.length_eq]
    rfl
  polls := fun _ hmem => allowsPolls_of_mem_pollCounts hmem

/-- Runs that were completed are a schedule, if there are not too many of them. -/
theorem isSchedule_of_runs (runs : List (SampleRun settings)) (hpos : 1 ≤ runs.length)
    (hle : runs.length ≤ settings.maxBootRestarts.toNat + 1) :
    IsSchedule settings (runs.map fun run => pollCounts run.searches) where
  runs_pos := by rwa [List.length_map]
  runs_le := by rwa [List.length_map]
  run := by
    intro polls hmem
    obtain ⟨run, -, rfl⟩ := List.mem_map.mp hmem
    exact run.allowsRun

/-- Runs that were completed leave room for one more. -/
theorem isSchedule_concat (runs : List (SampleRun settings)) {run : List ℕ}
    (hle : runs.length ≤ settings.maxBootRestarts.toNat) (hrun : settings.AllowsRun run) :
    IsSchedule settings ((runs.map fun run => pollCounts run.searches) ++ [run]) where
  runs_pos := by simp
  runs_le := by
    rw [List.length_append, List.length_map, List.length_singleton]
    exact Nat.succ_le_succ hle
  run := by
    intro polls hmem
    rcases List.mem_append.mp hmem with hmem | hmem
    · obtain ⟨run, -, rfl⟩ := List.mem_map.mp hmem
      exact run.allowsRun
    · rw [List.mem_singleton.mp hmem]
      exact hrun

/-- Sampling that gives a sample spells the word of a schedule, with a poll for every pair. -/
theorem SamplingEnds.spells {sample : BootSample}
    (h : SamplingEnds settings discarded (.ok sample) events) :
    ∃ runs, IsSchedule settings runs ∧ (∀ run ∈ runs, ∀ polls ∈ run, 1 ≤ polls) ∧
      events.map MachineEvent.call = samplingWord runs := by
  cases h with
  | kept last hle hstands hused =>
    refine ⟨_, isSchedule_of_runs (discarded ++ [last]) (by simp) (by simp; omega), ?_,
      calls_runs _⟩
    intro polls hmem k hk
    obtain ⟨run, -, rfl⟩ := List.mem_map.mp hmem
    obtain ⟨x, -, rfl⟩ := List.mem_map.mp hk
    exact x.length_polls.1

/-- Sampling that fails spells the beginning of the word of a schedule. -/
theorem SamplingEnds.cut_short (h : SamplingEnds settings discarded (.error error) events) :
    ∃ runs, IsSchedule settings runs ∧ events.map MachineEvent.call <+: samplingWord runs := by
  cases h with
  | @cut error last hle hfails =>
    obtain ⟨run, hallowed, hbegins⟩ := hfails.begins_runWord
    refine ⟨_, isSchedule_concat discarded hle hallowed, ?_⟩
    rw [List.map_append, calls_runs, samplingWord, samplingWord, List.flatMap_append,
      List.flatMap_singleton]
    exact List.prefix_append_right_inj _ |>.mpr hbegins
  | restartedOut hlength =>
    refine ⟨_, isSchedule_of_runs discarded (by omega) hlength.le, [], ?_⟩
    rw [List.append_nil, calls_runs]

variable {answer : Except ClockError BootSample}

/-- However it ends, sampling spells the beginning of the word of a schedule. -/
theorem SamplingEnds.begins (h : SamplingEnds settings discarded answer events) :
    ∃ runs, IsSchedule settings runs ∧ events.map MachineEvent.call <+: samplingWord runs := by
  cases answer with
  | error error => exact h.cut_short
  | ok sample =>
    obtain ⟨runs, hruns, -, hcalls⟩ := h.spells
    exact ⟨runs, hruns, [], by rw [List.append_nil, hcalls]⟩

/-- Sampling that discards all runs allowed fails, and tells how many there were unless that is too
large for its word. -/
theorem SamplingEnds.exhausted (h : SamplingEnds settings discarded answer events)
    (hall : discarded.length = settings.maxBootRestarts.toNat + 1) :
    ∃ attempts : UInt32, answer = .error (.samplingExhausted attempts) ∧
      (settings.maxBootRestarts.toNat < 0xffffffff →
        attempts.toNat = settings.maxBootRestarts.toNat + 1) := by
  cases h with
  | kept last hle hstands hused => omega
  | cut hle hfails => omega
  | restartedOut hlength =>
    refine ⟨_, rfl, fun hlt => ?_⟩
    rw [UInt32.toNat_add]
    change (settings.maxBootRestarts.toNat + 1) % 2 ^ 32 = _
    omega

end Words

/-! ## The calls of a refresh -/

namespace Estimator

/-- What the calls of a refresh look like, and what its answer and its counters have to do with
them. -/
structure KeepsProtocol (settings : Settings) (e e' : Estimator)
    (answer : Except ClockError RefreshOutcome) (records : List (MachineRecord σ)) : Prop where
  /-- A refresh that completes spells a whole word, with a poll for every pair. -/
  completed : ∀ outcome, answer = .ok outcome →
    ∃ runs, IsSchedule settings runs ∧ (∀ run ∈ runs, ∀ polls ∈ run, 1 ≤ polls) ∧
      callsMade records = samplingWord runs
  /-- A refresh that fails spells the beginning of a word. -/
  failed : ∀ error, answer = .error error →
    ∃ runs, IsSchedule settings runs ∧ callsMade records <+: samplingWord runs
  length_le : (callsMade records).length ≤ (settings.maxBootRestarts.toNat + 1) *
    (2 + max 1 settings.samplesPerAttempt.toNat * (1 + 3 * settings.maxWallPolls.toNat))
  /-- Nothing is set, and nothing else is read. -/
  reads : ∀ call ∈ callsMade records, call = .boot ∨ call = .wall ∨ call = .ticks
  /-- The completed pairs are those of searches whose calls stand together. In each of them a read
  of the wall clock, but for the first, has a read of the counter directly before and after it. -/
  between : ∃ searches : List (PairSearch settings.maxWallPolls),
    completedPairs records = (searches.map PairSearch.pair).reverse ∧
    ∀ x ∈ searches, x.events <:+: transcript records ∧
      ∀ front seen back, x.events = front ++ .wall seen :: back → front ≠ [] →
        ∃ earlier before after later,
          front = earlier ++ [.ticks before] ∧ back = .ticks after :: later
  /-- The restarts that are counted are the runs that saw the boot time move. -/
  bootRestarts : e'.counters.bootRestarts =
    e.counters.bootRestarts + .ofNat (movedRuns (bootReads (transcript records)))
  /-- If all runs allowed saw it move, the refresh fails, and tells how many there were. -/
  restartedOut : movedRuns (bootReads (transcript records)) = settings.maxBootRestarts.toNat + 1 →
    e'.counters.bootRestarts =
        e.counters.bootRestarts + .ofNat (settings.maxBootRestarts.toNat + 1) ∧
      ∃ attempts : UInt32, answer = .error (.samplingExhausted attempts) ∧
        (settings.maxBootRestarts.toNat < 0xffffffff →
          attempts.toNat = settings.maxBootRestarts.toNat + 1)

/-- Some numbers of polls are always allowed: one run, in which every pair takes all of them. -/
theorem exists_isSchedule (settings : Settings) : ∃ runs, IsSchedule settings runs :=
  ⟨_, isSchedule_concat [] (Nat.zero_le _) settings.allowsRun_all⟩

/-- Without a timebase a refresh makes no call. -/
theorem KeepsProtocol.degraded (m : Machine σ) (settings : Settings) (e : Estimator) (s : σ) :
    KeepsProtocol settings e (e.refresh m .degraded settings s).2.1
      (e.refresh m .degraded settings s).1 (e.refreshRecord m .degraded settings s) where
  completed outcome hok := by cases hok
  failed error _ := by
    obtain ⟨runs, hruns⟩ := exists_isSchedule settings
    exact ⟨runs, hruns, List.nil_prefix⟩
  length_le := Nat.zero_le _
  reads call hmem := by cases hmem
  between := ⟨[], rfl, by simp⟩
  bootRestarts := (UInt64.add_zero _).symm
  restartedOut hmoved := by cases hmoved

/-- A refresh keeps to the protocol of sampling, on every machine and however it ends. -/
theorem refresh_keepsProtocol (m : Machine σ) (converter : Converter) (settings : Settings)
    (e : Estimator) (s : σ) :
    KeepsProtocol settings e (e.refresh m converter settings s).2.1
      (e.refresh m converter settings s).1 (e.refreshRecord m converter settings s) := by
  cases converter with
  | degraded => exact .degraded m settings e s
  | calibrated ratio =>
    rcases hrefresh : e.refresh m (.calibrated ratio) settings s with ⟨answer, e', t⟩
    obtain ⟨discarded, sampled, hends, hmoved, hrestarts, hanswer, -⟩ := refresh_ends hrefresh
    have hcount := hends.movedRuns_eq hmoved
    obtain ⟨runs, hruns, hbegins⟩ := hends.begins
    refine
      { completed := fun outcome hok => ?_
        failed := fun _ _ => ⟨runs, hruns, hbegins⟩
        length_le := hbegins.length_le.trans (length_samplingWord_le hruns)
        reads := fun call hmem => mem_samplingWord (hbegins.subset hmem)
        between := ?_
        bootRestarts := by rw [hcount]; exact hrestarts
        restartedOut := fun hall => ?_ }
    · -- a refresh completes only with a sample
      cases sampled with
      | error error =>
        change answer = .ok outcome at hok
        rw [hok] at hanswer
        cases hanswer
      | ok sample => exact hends.spells
    · obtain ⟨searches, hpairs, htogether⟩ := hends.completes
      refine ⟨searches, ?_, fun x hx => ⟨htogether x hx, fun front seen back => ?_⟩⟩
      · rw [completedPairs, pairScan_eq_through]
        exact hpairs
      · exact x.pollsBetweenTicks
    · -- the runs that saw the boot time move are the ones discarded
      rw [hcount] at hall
      obtain ⟨attempts, rfl, hattempts⟩ := hends.exhausted hall
      exact ⟨by rw [← hall]; exact hrestarts, attempts, hanswer, hattempts⟩

/-- The boot time moves in both runs that `threePairs` allows. -/
def alwaysMoving : Script where
  boot := [.ok ⟨0, 0⟩, .ok ⟨1, 0⟩, .ok ⟨2, 0⟩, .ok ⟨3, 0⟩]
  wall := [.ok ⟨5, 1⟩, .ok ⟨5, 2⟩, .ok ⟨5, 3⟩, .ok ⟨5, 4⟩, .ok ⟨5, 5⟩, .ok ⟨5, 6⟩,
    .ok ⟨5, 7⟩, .ok ⟨5, 7⟩, .ok ⟨5, 8⟩, .ok ⟨5, 9⟩, .ok ⟨5, 10⟩, .ok ⟨5, 11⟩, .ok ⟨5, 12⟩]
  ticks := [10]

theorem alwaysMoving_keepsProtocol :
    (callsMade (new.refreshRecord (Script.machine false) (.calibrated .identity) threePairs
        alwaysMoving)).length = 31 ∧
      ∃ attempts : UInt32,
        (new.refresh (Script.machine false) (.calibrated .identity) threePairs alwaysMoving).1 =
            .error (.samplingExhausted attempts) ∧
          attempts.toNat = 2 := by
  have hkeeps := refresh_keepsProtocol (Script.machine false) (.calibrated .identity) threePairs new
    alwaysMoving
  obtain ⟨-, attempts, herror, hattempts⟩ := hkeeps.restartedOut rfl
  exact ⟨rfl, attempts, herror, hattempts (by decide)⟩

end Estimator

end SoftClock
