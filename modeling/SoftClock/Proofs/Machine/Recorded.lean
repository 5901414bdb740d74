import SoftClock.Proofs.Machine.Agreement

/-!
# Recorded Machines

`Machine.recorded` is a machine that notes the calls made to it, with their answers and the states
in which they were made, the newest first. It gives the answers of the plain machine
(`recorded_agrees`), and its record only grows (`Reads.suffix`). A `Source` is one way to read a
machine, with the note that the record keeps of it.

Two properties of records state what is asked of a counter over time: `CounterOrdered` says that
precise reads never go back and stay below `2 ^ 63`, and `CoarseLags` that no coarse read is ahead
of a later precise one. Both hold of the older part of a record if they hold of all of it.
-/

namespace SoftClock

variable {σ ε α : Type}

/-- A call with its answer, and the state of the machine in which it was made. -/
structure MachineRecord (σ : Type) where
  before : σ
  event : MachineEvent

/-- A way to read a machine, and how the read is noted. -/
structure Source (σ α : Type) where
  event : α → MachineEvent
  read : σ → α × σ

/-- The note of a read. -/
def Source.note (source : Source σ α) (s : σ) : MachineRecord σ :=
  ⟨s, source.event (source.read s).1⟩

/-- The answer of a precise counter read. -/
def MachineEvent.ticks? : MachineEvent → Option UInt64
  | .ticks answer => some answer
  | _ => none

/-- The answer of a coarse counter read. -/
def MachineEvent.coarseTicks? : MachineEvent → Option UInt64
  | .coarseTicks answer => some answer
  | _ => none

/-- The answers of the precise counter in a record, the newest first. -/
def preciseReads (records : List (MachineRecord σ)) : List UInt64 :=
  records.filterMap fun record => record.event.ticks?

/-- The answers of the coarse counter in a record, the newest first. -/
def coarseReads (records : List (MachineRecord σ)) : List UInt64 :=
  records.filterMap fun record => record.event.coarseTicks?

/-- In a record the reads of the precise counter never go back, and they stay below `2 ^ 63`. -/
structure CounterOrdered (records : List (MachineRecord σ)) : Prop where
  le : (preciseReads records).Pairwise fun later earlier => earlier ≤ later
  lt : ∀ ticks ∈ preciseReads records, ticks.toNat < 0x8000000000000000

instance (records : List (MachineRecord σ)) : Decidable (CounterOrdered records) :=
  decidable_of_iff
    ((preciseReads records).Pairwise (fun later earlier => earlier ≤ later) ∧
      (preciseReads records).all fun ticks => ticks.toNat < 0x8000000000000000)
    ⟨fun h => ⟨h.1, by simpa using h.2⟩, fun h => ⟨h.le, by simpa using h.lt⟩⟩

/-- If the earlier event is a coarse counter read and the later one a precise one, then the coarse
one is not ahead. -/
def MachineEvent.Lags : MachineEvent → MachineEvent → Prop
  | .coarseTicks earlier, .ticks later => earlier ≤ later
  | _, _ => True

instance (earlier later : MachineEvent) : Decidable (earlier.Lags later) := by
  unfold MachineEvent.Lags
  split <;> infer_instance

/-- In a record no read of the coarse counter is ahead of a later read of the precise one. -/
def CoarseLags (records : List (MachineRecord σ)) : Prop :=
  records.Pairwise fun later earlier => earlier.event.Lags later.event

instance (records : List (MachineRecord σ)) : Decidable (CoarseLags records) :=
  inferInstanceAs (Decidable (List.Pairwise _ _))

section Suffix

variable {older records : List (MachineRecord σ)}

theorem preciseReads_suffix (hsuffix : older <:+ records) :
    preciseReads older <:+ preciseReads records :=
  hsuffix.filterMap _

theorem coarseReads_suffix (hsuffix : older <:+ records) :
    coarseReads older <:+ coarseReads records :=
  hsuffix.filterMap _

theorem CounterOrdered.of_suffix (hsuffix : older <:+ records) (h : CounterOrdered records) :
    CounterOrdered older where
  le := h.le.sublist (preciseReads_suffix hsuffix).sublist
  lt ticks hmem := h.lt ticks ((preciseReads_suffix hsuffix).subset hmem)

theorem CoarseLags.of_suffix (hsuffix : older <:+ records) (h : CoarseLags records) :
    CoarseLags older :=
  List.Pairwise.sublist hsuffix.sublist h

variable {s : σ} {newest ticks : UInt64}

/-- No earlier precise read is ahead of the newest one. -/
theorem CounterOrdered.le_newest (h : CounterOrdered (⟨s, .ticks newest⟩ :: records))
    (hmem : ticks ∈ preciseReads records) : ticks ≤ newest :=
  (List.pairwise_cons.mp h.le).1 ticks hmem

/-- The newest precise read is below `2 ^ 63`. -/
theorem CounterOrdered.newest_lt (h : CounterOrdered (⟨s, .ticks newest⟩ :: records)) :
    newest.toNat < 0x8000000000000000 :=
  h.lt newest List.mem_cons_self

/-- Where the coarse counter lags, no earlier coarse read is ahead of the newest precise one. -/
theorem CoarseLags.le_newest (h : CoarseLags (⟨s, .ticks newest⟩ :: records))
    (hmem : ticks ∈ coarseReads records) : ticks ≤ newest := by
  obtain ⟨earlier, hearlier, hticks⟩ := List.mem_filterMap.mp hmem
  have hlags := (List.pairwise_cons.mp h).1 earlier hearlier
  rcases hevent : earlier.event with _ | _ | _ | coarse | _ | _ | _ | _ <;>
    rw [hevent] at hticks hlags <;> cases hticks
  exact hlags

end Suffix

namespace Machine

/-- A call that is also recorded. -/
def recording (event : α → MachineEvent) (call : σ → α × σ) :
    σ × List (MachineRecord σ) → α × σ × List (MachineRecord σ) :=
  noting .mk event call

/-- A recorded call by its outcome: the plain call, and its note in front of the record. -/
theorem recording_eq {event : α → MachineEvent} {call : σ → α × σ}
    {s t : σ × List (MachineRecord σ)} {answer : α} (h : recording event call s = (answer, t)) :
    call s.1 = (answer, t.1) ∧ t.2 = ⟨s.1, event answer⟩ :: s.2 := by
  cases h
  exact ⟨rfl, rfl⟩

/-- What the environment does to a machine, beside a record that it leaves alone. -/
def besideRecord (act : ε → σ → σ) (action : ε) (s : σ × List (MachineRecord σ)) :
    σ × List (MachineRecord σ) :=
  (act action s.1, s.2)

/-- Beside a record the environment does what it does without one. -/
theorem besideRecord_fst (act : ε → σ → σ) (action : ε) (s : σ × List (MachineRecord σ)) (t : σ)
    (h : s.1 = t) : (besideRecord act action s).1 = act action t := by
  rw [← h]
  rfl

/-- The same machine with a record of its calls, the newest first. -/
def recorded (m : Machine σ) : Machine (σ × List (MachineRecord σ)) := m.noted .mk

/-- An approximate read is recorded as what it is: a coarse read, or a precise one on a machine
without a coarse counter. -/
theorem recorded_approxTicks (m : Machine σ) :
    (m.coarseTicks?.isSome ∧ m.recorded.approxTicks = recording .coarseTicks m.approxTicks) ∨
      (m.coarseTicks? = none ∧ m.recorded.approxTicks = recording .ticks m.approxTicks) := by
  cases h : m.coarseTicks? with
  | none => exact .inr ⟨rfl, by simp [recorded, noted, recording, approxTicks, h]⟩
  | some read => exact .inl ⟨rfl, by simp [recorded, noted, recording, approxTicks, h]⟩

/-- The source of precise counts. -/
def preciseSource (m : Machine σ) : Source σ UInt64 := ⟨.ticks, m.ticks⟩

/-- The source of approximate counts. A machine without a coarse counter shows the precise one in
its place. -/
def approxSource (m : Machine σ) : Source σ UInt64 :=
  ⟨if m.coarseTicks?.isSome then .coarseTicks else .ticks, m.approxTicks⟩

/-- An approximate read is recorded as a read of its source. -/
theorem recorded_approxSource (m : Machine σ) :
    m.recorded.approxTicks = recording m.approxSource.event m.approxSource.read := by
  rcases m.recorded_approxTicks with ⟨hsome, h⟩ | ⟨hnone, h⟩
  · rw [h, approxSource, if_pos hsome]
  · rw [h, approxSource, hnone]
    rfl

/-- Recording a call does not change its outcome. -/
theorem agree_recording (event : α → MachineEvent) (call : σ → α × σ)
    {s : σ × List (MachineRecord σ)} {t : σ} (h : s.1 = t) :
    Agree (fun s t => s.1 = t) (recording event call s) (call t) := by
  subst h
  exact ⟨rfl, rfl⟩

/-- A recorded machine answers as the plain one. -/
theorem recorded_agrees (m : Machine σ) : m.recorded.CallsAgree m fun s t => s.1 = t where
  wall := agree_recording _ _
  setWall time := agree_recording _ (m.setWall time)
  ticks := agree_recording _ _
  approxTicks := by
    rcases m.recorded_approxTicks with ⟨-, h⟩ | ⟨-, h⟩ <;> rw [h] <;> exact agree_recording _ _
  scale := agree_recording _ _
  boot := agree_recording _ _
  processCpu := agree_recording _ _
  threadCpu := agree_recording _ _

/-- A recorded read is a read of the plain machine, and is noted. -/
theorem Read.of_recorded {m : Machine σ} {s t : σ × List (MachineRecord σ)}
    (h : m.recorded.Read s t) : m.Read s.1 t.1 ∧ ∃ event, t.2 = ⟨s.1, event⟩ :: s.2 := by
  cases h with
  | wall => exact ⟨.wall _, _, rfl⟩
  | ticks => exact ⟨.ticks _, _, rfl⟩
  | approxTicks =>
    rcases m.recorded_approxTicks with ⟨-, h⟩ | ⟨-, h⟩ <;> rw [h] <;>
      exact ⟨.approxTicks _, _, rfl⟩
  | scale => exact ⟨.scale _, _, rfl⟩
  | boot => exact ⟨.boot _, _, rfl⟩
  | processCpu => exact ⟨.processCpu _, _, rfl⟩
  | threadCpu => exact ⟨.threadCpu _, _, rfl⟩

/-- Reads only add to the record. -/
theorem Reads.suffix {m : Machine σ} {s t : σ × List (MachineRecord σ)}
    (h : m.recorded.Reads s t) : s.2 <:+ t.2 := by
  refine h.keeps (P := fun t => s.2 <:+ t.2) (fun u v hread hsuffix => ?_) List.suffix_rfl
  obtain ⟨-, event, hlog⟩ := hread.of_recorded
  rw [hlog]
  exact hsuffix.trans (List.suffix_cons _ _)

/-- Recorded reads are reads of the plain machine. -/
theorem Reads.of_recorded {m : Machine σ} {s t : σ × List (MachineRecord σ)}
    (h : m.recorded.Reads s t) : m.Reads s.1 t.1 :=
  h.keeps (P := fun t => m.Reads s.1 t.1)
    (fun _ _ hread hreads => hreads.trans (.single hread.of_recorded.1)) (.refl _)

end Machine

end SoftClock
