import SoftClock.Machine.Basic
import Mathlib.Logic.Relation

/-!
# Agreement of Machines

Two machines agree along a relation of their states when each call gives the same answer from
related states and leads to related states again. An operation that reaches a machine only through
its calls cannot tell agreeing machines apart. This has two uses:

* a machine that also keeps a record of its calls agrees with the plain one along the projection;
* a machine agrees with itself along "equal, and with property `P`" for every property `P` that its
  calls keep (`ReadsAgree.of_keeps`), so an operation keeps `P` too.

`Machine.Reads` relates a state to those that calls other than setting the wall clock lead to.
-/

namespace SoftClock

variable {σ τ α : Type}

/-- Outcomes with equal answers and related states. -/
def Agree (R : σ → τ → Prop) (x : α × σ) (y : α × τ) : Prop := x.1 = y.1 ∧ R x.2 y.2

/-- Agreeing outcomes in components. -/
theorem Agree.cases {R : σ → τ → Prop} {x : α × σ} {y : α × τ} (h : Agree R x y) :
    ∃ a s t, x = (a, s) ∧ y = (a, t) ∧ R s t :=
  ⟨x.1, x.2, y.2, rfl, Prod.ext h.1.symm rfl, h.2⟩

namespace Machine

/-- Related states answer every call but setting the wall clock alike. -/
structure ReadsAgree (m : Machine σ) (n : Machine τ) (R : σ → τ → Prop) : Prop where
  wall {s : σ} {t : τ} : R s t → Agree R (m.wall s) (n.wall t)
  ticks {s : σ} {t : τ} : R s t → Agree R (m.ticks s) (n.ticks t)
  approxTicks {s : σ} {t : τ} : R s t → Agree R (m.approxTicks s) (n.approxTicks t)
  scale {s : σ} {t : τ} : R s t → Agree R (m.scale s) (n.scale t)
  boot {s : σ} {t : τ} : R s t → Agree R (m.boot s) (n.boot t)
  processCpu {s : σ} {t : τ} : R s t → Agree R (m.processCpu s) (n.processCpu t)
  threadCpu {s : σ} {t : τ} : R s t → Agree R (m.threadCpu s) (n.threadCpu t)

/-- Related states answer every call alike. -/
structure CallsAgree (m : Machine σ) (n : Machine τ) (R : σ → τ → Prop) : Prop
    extends ReadsAgree m n R where
  setWall {s : σ} {t : τ} (time : Timeval) : R s t → Agree R (m.setWall time s) (n.setWall time t)

/-- One call other than setting the wall clock. -/
inductive Read (m : Machine σ) : σ → σ → Prop
  | wall (s : σ) : Read m s (m.wall s).2
  | ticks (s : σ) : Read m s (m.ticks s).2
  | approxTicks (s : σ) : Read m s (m.approxTicks s).2
  | scale (s : σ) : Read m s (m.scale s).2
  | boot (s : σ) : Read m s (m.boot s).2
  | processCpu (s : σ) : Read m s (m.processCpu s).2
  | threadCpu (s : σ) : Read m s (m.threadCpu s).2

/-- Any number of calls other than setting the wall clock. -/
def Reads (m : Machine σ) : σ → σ → Prop := Relation.ReflTransGen m.Read

namespace Reads

variable {m : Machine σ} {s t u : σ}

theorem refl (s : σ) : m.Reads s s := Relation.ReflTransGen.refl

theorem trans (h : m.Reads s t) (h' : m.Reads t u) : m.Reads s u := Relation.ReflTransGen.trans h h'

theorem single (h : m.Read s t) : m.Reads s t := Relation.ReflTransGen.single h

/-- A wall clock read that is known by its outcome. -/
theorem of_wall {answer : Except ClockError Timeval} (h : m.wall s = (answer, t)) :
    m.Reads s t := by
  have := single (Read.wall (m := m) s)
  rwa [h] at this

/-- A counter read that is known by its outcome. -/
theorem of_ticks {answer : UInt64} (h : m.ticks s = (answer, t)) : m.Reads s t := by
  have := single (Read.ticks (m := m) s)
  rwa [h] at this

/-- An approximate counter read that is known by its outcome. -/
theorem of_approxTicks {answer : UInt64} (h : m.approxTicks s = (answer, t)) : m.Reads s t := by
  have := single (Read.approxTicks (m := m) s)
  rwa [h] at this

/-- A read of the scale that is known by its outcome. -/
theorem of_scale {answer : Except ClockError Scale} (h : m.scale s = (answer, t)) :
    m.Reads s t := by
  have := single (Read.scale (m := m) s)
  rwa [h] at this

/-- A boot time read that is known by its outcome. -/
theorem of_boot {answer : Except ClockError Timeval} (h : m.boot s = (answer, t)) :
    m.Reads s t := by
  have := single (Read.boot (m := m) s)
  rwa [h] at this

/-- A property that each call keeps is kept by any number of them. -/
theorem keeps {P : σ → Prop} (hstep : ∀ s t, m.Read s t → P s → P t) (h : m.Reads s t) (hs : P s) :
    P t := by
  induction h with
  | refl => exact hs
  | tail _ hread ih => exact hstep _ _ hread ih

end Reads

/-- A machine agrees with itself along any property that its calls keep. -/
theorem ReadsAgree.of_keeps {m : Machine σ} {P : σ → Prop}
    (hstep : ∀ s t, m.Read s t → P s → P t) : m.ReadsAgree m fun s t => s = t ∧ P s where
  wall := by rintro s _ ⟨rfl, hs⟩; exact ⟨rfl, rfl, hstep _ _ (.wall s) hs⟩
  ticks := by rintro s _ ⟨rfl, hs⟩; exact ⟨rfl, rfl, hstep _ _ (.ticks s) hs⟩
  approxTicks := by rintro s _ ⟨rfl, hs⟩; exact ⟨rfl, rfl, hstep _ _ (.approxTicks s) hs⟩
  scale := by rintro s _ ⟨rfl, hs⟩; exact ⟨rfl, rfl, hstep _ _ (.scale s) hs⟩
  boot := by rintro s _ ⟨rfl, hs⟩; exact ⟨rfl, rfl, hstep _ _ (.boot s) hs⟩
  processCpu := by rintro s _ ⟨rfl, hs⟩; exact ⟨rfl, rfl, hstep _ _ (.processCpu s) hs⟩
  threadCpu := by rintro s _ ⟨rfl, hs⟩; exact ⟨rfl, rfl, hstep _ _ (.threadCpu s) hs⟩

/-- A machine agrees with itself along the states that reads lead to from a fixed one. -/
theorem ReadsAgree.reads (m : Machine σ) (s₀ : σ) :
    m.ReadsAgree m fun s t => s = t ∧ m.Reads s₀ s :=
  .of_keeps fun _ _ hread hs => hs.trans (.single hread)

end Machine

end SoftClock
