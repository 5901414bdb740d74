import SoftClock.Proofs.Offset.Refresh

/-!
# Offsets along a Sequence of Candidates

What the commit rule does to an offset over any number of candidates, and the bounds of the margin
that a candidate has to exceed.

* `HysteresisStep` is one step: the offset stays, or moves to the candidate and rises by more than
  the margin. Every step of a run is one (`hysteresisStep_of_mem_run`), so offsets never decrease
  (`hysteresisRun_pairwise`).
* `finalOffset` is where a run ends. No candidate of the run exceeds it by more than the margin
  (`candidate_le_finalOffset`), so the same candidates do not move it again
  (`eq_of_mem_hysteresisRun`).
* `requiredAdvance_le_requiredAdvance` and `requiredAdvance_le_max` bound the margin itself.
* `hysteresisRun_settles` puts this together.
-/

namespace SoftClock

/-! ## Steps -/

/-- How an offset meets a candidate. -/
inductive HysteresisStep (margin offset : UInt64) (candidate : Int64) : UInt64 → Prop
  /-- The candidate does not exceed the offset by more than the margin, and the offset stays. -/
  | stays : candidate.toInt ≤ offset.toNat + margin.toNat →
    HysteresisStep margin offset candidate offset
  /-- The offset becomes the candidate, and has risen by more than the margin. -/
  | rises {next : UInt64} : (next.toNat : ℤ) = candidate.toInt →
    offset.toNat + margin.toNat < next.toNat → HysteresisStep margin offset candidate next

namespace HysteresisStep

variable {margin offset next : UInt64} {candidate : Int64}

/-- Every candidate makes such a step. -/
theorem of_applyHysteresis (margin offset : UInt64) (candidate : Int64) :
    HysteresisStep margin offset candidate (applyHysteresis offset candidate margin) := by
  rcases applyHysteresis_cases offset candidate margin with ⟨heq, hle⟩ | ⟨hlt, heq⟩
  · rw [heq]
    exact .stays hle
  · exact .rises heq (by omega)

variable (h : HysteresisStep margin offset candidate next)

include h

/-- No step goes down. -/
theorem le : offset ≤ next := by
  rw [UInt64.le_iff_toNat_le]
  cases h with
  | stays _ => exact Nat.le_refl _
  | rises _ hlt => omega

/-- After a step the candidate does not exceed the offset by more than the margin. -/
theorem candidate_le : candidate.toInt ≤ next.toNat + margin.toNat := by
  cases h with
  | stays hle => exact hle
  | rises heq _ => omega

/-- After a step the offset is the one before or the candidate. -/
theorem eq_or_eq_candidate : next = offset ∨ (next.toNat : ℤ) = candidate.toInt := by
  cases h with
  | stays _ => exact .inl rfl
  | rises heq _ => exact .inr heq

/-- A candidate within the margin does not move the offset. -/
theorem eq_of_candidate_le (hle : candidate.toInt ≤ offset.toNat + margin.toNat) :
    next = offset := by
  cases h with
  | stays _ => rfl
  | rises heq hlt => omega

end HysteresisStep

/-! ## Runs -/

/-- The offset at the end of a run. -/
def finalOffset (margin offset : UInt64) (candidates : List Int64) : UInt64 :=
  (hysteresisRun margin offset candidates).getLastD offset

/-- A run goes on from its first step. -/
theorem finalOffset_cons (margin offset : UInt64) (candidate : Int64) (rest : List Int64) :
    finalOffset margin offset (candidate :: rest) =
      finalOffset margin (applyHysteresis offset candidate margin) rest :=
  List.getLastD_cons

variable (margin offset : UInt64) (candidates : List Int64)

/-- A run has one offset for each candidate. -/
theorem length_hysteresisRun :
    (hysteresisRun margin offset candidates).length = candidates.length := by
  induction candidates generalizing offset with
  | nil => rfl
  | cons candidate rest ih => exact congrArg Nat.succ (ih _)

/-- The steps of a run: the offset before, the candidate, and the offset after it. -/
def hysteresisSteps : List (UInt64 × Int64 × UInt64) :=
  (offset :: hysteresisRun margin offset candidates).zip
    (candidates.zip (hysteresisRun margin offset candidates))

variable {margin offset candidates}

/-- Every step of a run leaves the offset or moves it to that step's candidate. -/
theorem hysteresisStep_of_mem_run {step : UInt64 × Int64 × UInt64}
    (hmem : step ∈ hysteresisSteps margin offset candidates) :
    HysteresisStep margin step.1 step.2.1 step.2.2 := by
  induction candidates generalizing offset with
  | nil => cases hmem
  | cons candidate rest ih =>
    rcases List.mem_cons.mp hmem with rfl | hmem
    · exact .of_applyHysteresis margin offset candidate
    · exact ih hmem

variable (margin offset candidates)

/-- The offsets of a run are at least the one it starts from. -/
theorem le_of_mem_hysteresisRun {next : UInt64}
    (hmem : next ∈ hysteresisRun margin offset candidates) : offset ≤ next := by
  induction candidates generalizing offset with
  | nil => cases hmem
  | cons candidate rest ih =>
    have hstep := HysteresisStep.of_applyHysteresis margin offset candidate
    rcases List.mem_cons.mp hmem with rfl | hmem
    · exact hstep.le
    · exact UInt64.le_trans hstep.le (ih _ hmem)

/-- The offsets of a run never decrease. -/
theorem hysteresisRun_pairwise :
    (offset :: hysteresisRun margin offset candidates).Pairwise (· ≤ ·) := by
  induction candidates generalizing offset with
  | nil => exact List.pairwise_singleton _ _
  | cons candidate rest ih =>
    exact List.pairwise_cons.mpr
      ⟨fun next hmem => le_of_mem_hysteresisRun margin offset _ hmem, ih _⟩

/-- A run ends at or above the offset it starts from. -/
theorem le_finalOffset : offset ≤ finalOffset margin offset candidates := by
  induction candidates generalizing offset with
  | nil => exact UInt64.le_refl offset
  | cons candidate rest ih =>
    rw [finalOffset_cons]
    exact UInt64.le_trans (HysteresisStep.of_applyHysteresis margin offset candidate).le (ih _)

/-- A run ends at the offset it starts from or at one of its candidates. -/
theorem finalOffset_eq_or_mem :
    finalOffset margin offset candidates = offset ∨
      ∃ candidate ∈ candidates,
        ((finalOffset margin offset candidates).toNat : ℤ) = candidate.toInt := by
  induction candidates generalizing offset with
  | nil => exact .inl rfl
  | cons candidate rest ih =>
    rw [finalOffset_cons]
    rcases ih (applyHysteresis offset candidate margin) with heq | ⟨later, hmem, heq⟩
    · -- the rest leaves the first step as it is
      rw [heq]
      rcases (HysteresisStep.of_applyHysteresis margin offset candidate).eq_or_eq_candidate with
        hstays | hrises
      · exact .inl hstays
      · exact .inr ⟨candidate, List.mem_cons_self, hrises⟩
    · exact .inr ⟨later, List.mem_cons_of_mem _ hmem, heq⟩

variable {candidates}

/-- No candidate of a run exceeds the offset at its end by more than the margin. -/
theorem candidate_le_finalOffset {candidate : Int64} (hmem : candidate ∈ candidates) :
    candidate.toInt ≤ (finalOffset margin offset candidates).toNat + margin.toNat := by
  induction candidates generalizing offset with
  | nil => cases hmem
  | cons first rest ih =>
    rw [finalOffset_cons]
    rcases List.mem_cons.mp hmem with rfl | hmem
    · -- what the step bounds stays bounded, since the offset only rises after it
      have hstep := (HysteresisStep.of_applyHysteresis margin offset candidate).candidate_le
      have hrest := UInt64.le_iff_toNat_le.mp
        (le_finalOffset margin (applyHysteresis offset candidate margin) rest)
      omega
    · exact ih _ hmem

variable {margin offset}

/-- Candidates within the margin do not move the offset. -/
theorem eq_of_mem_hysteresisRun
    (hle : ∀ candidate ∈ candidates, candidate.toInt ≤ offset.toNat + margin.toNat) {next : UInt64}
    (hmem : next ∈ hysteresisRun margin offset candidates) : next = offset := by
  induction candidates with
  | nil => cases hmem
  | cons candidate rest ih =>
    have hstays := (HysteresisStep.of_applyHysteresis margin offset candidate).eq_of_candidate_le
      (hle candidate List.mem_cons_self)
    rcases List.mem_cons.mp hmem with rfl | hmem
    · exact hstays
    · rw [hstays] at hmem
      exact ih (fun later hlater => hle later (List.mem_cons_of_mem _ hlater)) hmem

/-! ## The margin -/

/-- The margin grows with its floor, with the time since the last commit and with the slew. -/
theorem requiredAdvance_le_requiredAdvance {floor floor' since since' : UInt64} {ppm ppm' : UInt32}
    (hfloor : floor ≤ floor') (hsince : since ≤ since') (hppm : ppm ≤ ppm') :
    requiredAdvance floor since ppm ≤ requiredAdvance floor' since' ppm' := by
  rw [UInt64.le_iff_toNat_le, toNat_requiredAdvance, toNat_requiredAdvance]
  have hproduct : since.toNat * ppm.toNat ≤ since'.toNat * ppm'.toNat :=
    Nat.mul_le_mul (UInt64.le_iff_toNat_le.mp hsince) (UInt32.le_iff_toNat_le.mp hppm)
  exact max_le_max (UInt64.le_iff_toNat_le.mp hfloor)
    (min_le_min_left _ (Nat.div_le_div_right hproduct))

/-- The margin is at least its floor. -/
theorem le_requiredAdvance (floor since : UInt64) (ppm : UInt32) :
    floor ≤ requiredAdvance floor since ppm := by
  rw [UInt64.le_iff_toNat_le, toNat_requiredAdvance]
  exact le_max_left _ _

/-- A slew of at most one million millionths asks for no more than the time since the last
commit. -/
theorem requiredAdvance_le_max (floor since : UInt64) {ppm : UInt32} (hppm : ppm ≤ 1000000) :
    requiredAdvance floor since ppm ≤ max floor since := by
  have hslew : since.toNat * ppm.toNat / 1000000 ≤ since.toNat :=
    Nat.div_le_of_le_mul (by
      rw [Nat.mul_comm 1000000]
      exact Nat.mul_le_mul_left _ (UInt32.le_iff_toNat_le.mp hppm))
  rw [UInt64.le_iff_toNat_le, toNat_requiredAdvance, toNat_max]
  exact max_le_max_left _ (le_trans (min_le_right _ _) hslew)

/-! ## Whole runs -/

/-- Over any candidates the offset never decreases, and each step leaves it or moves it to the
candidate by more than the margin. It ends at the start or at a candidate, with no candidate more
than the margin above it, so that a second pass over the candidates changes nothing. The margin
grows with everything it is computed from, is never below its floor, and as long as the slew is at
most one million millionths never above both the floor and the time since the last commit. -/
theorem hysteresisRun_settles (margin offset : UInt64) (candidates : List Int64) :
    (offset :: hysteresisRun margin offset candidates).Pairwise (· ≤ ·) ∧
      (hysteresisRun margin offset candidates).length = candidates.length ∧
      (∀ step ∈ hysteresisSteps margin offset candidates,
        HysteresisStep margin step.1 step.2.1 step.2.2) ∧
      (finalOffset margin offset candidates = offset ∨
        ∃ candidate ∈ candidates,
          ((finalOffset margin offset candidates).toNat : ℤ) = candidate.toInt) ∧
      (∀ candidate ∈ candidates,
        candidate.toInt ≤ (finalOffset margin offset candidates).toNat + margin.toNat) ∧
      (∀ next ∈ hysteresisRun margin (finalOffset margin offset candidates) candidates,
        next = finalOffset margin offset candidates) ∧
      (∀ (floor floor' since since' : UInt64) (ppm ppm' : UInt32), floor ≤ floor' →
        since ≤ since' → ppm ≤ ppm' →
        requiredAdvance floor since ppm ≤ requiredAdvance floor' since' ppm') ∧
      ∀ (floor since : UInt64) (ppm : UInt32), floor ≤ requiredAdvance floor since ppm ∧
        (ppm ≤ 1000000 → requiredAdvance floor since ppm ≤ max floor since) := by
  have hwithin : ∀ candidate ∈ candidates,
      candidate.toInt ≤ (finalOffset margin offset candidates).toNat + margin.toNat :=
    fun candidate => candidate_le_finalOffset margin offset
  refine ⟨hysteresisRun_pairwise margin offset candidates,
    length_hysteresisRun margin offset candidates, fun step => hysteresisStep_of_mem_run,
    finalOffset_eq_or_mem margin offset candidates, hwithin,
    fun next => eq_of_mem_hysteresisRun hwithin, ?_, fun floor since ppm => ⟨?_, ?_⟩⟩
  · intro floor floor' since since' ppm ppm' hfloor hsince hppm
    exact requiredAdvance_le_requiredAdvance hfloor hsince hppm
  · exact le_requiredAdvance floor since ppm
  · exact requiredAdvance_le_max floor since

/-- Of these candidates three are committed, and on a second pass none. An hour at 500 millionths
asks for 1.8 seconds. -/
theorem threeCommits_settles :
    hysteresisRun 100 0 [5000, 2000, 9000, -1, 9050, 20000, 0, 19999] =
        [5000, 5000, 9000, 9000, 9000, 20000, 20000, 20000] ∧
      finalOffset 100 0 [5000, 2000, 9000, -1, 9050, 20000, 0, 19999] = 20000 ∧
      (∀ next ∈ hysteresisRun 100 20000 [5000, 2000, 9000, -1, 9050, 20000, 0, 19999],
        next = 20000) ∧
      (1000000 : UInt64) ≤ 2000000 ∧ (0 : UInt64) ≤ 3600000000000 ∧ (0 : UInt32) ≤ 500 ∧
      requiredAdvance 1000000 0 0 ≤ requiredAdvance 2000000 3600000000000 500 ∧
      (500 : UInt32) ≤ 1000000 ∧
      requiredAdvance 2000000 3600000000000 500 ≤ max 2000000 3600000000000 := by
  have hfinal : finalOffset 100 0 [5000, 2000, 9000, -1, 9050, 20000, 0, 19999] = 20000 := by
    decide +kernel
  obtain ⟨-, -, -, -, -, hsecond, hmono, hbounds⟩ :=
    hysteresisRun_settles 100 0 [5000, 2000, 9000, -1, 9050, 20000, 0, 19999]
  rw [hfinal] at hsecond
  have hfloor : (1000000 : UInt64) ≤ 2000000 := by decide
  have hsince : (0 : UInt64) ≤ 3600000000000 := by decide
  have hppm : (0 : UInt32) ≤ 500 := by decide
  have hslew : (500 : UInt32) ≤ 1000000 := by decide
  exact ⟨by decide +kernel, hfinal, hsecond, hfloor, hsince, hppm,
    hmono _ _ _ _ _ _ hfloor hsince hppm, hslew, (hbounds _ _ _).2 hslew⟩

end SoftClock
