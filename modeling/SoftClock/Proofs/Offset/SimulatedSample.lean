import SoftClock.Proofs.Machine.SimulatedTime
import SoftClock.Proofs.Offset.Sampling
import SoftClock.Proofs.Time.Exact

/-!
# Samples of a Simulated Machine

On a simulated machine whose counter does not wrap, a pair is exact: its wall clock value is the one
of its midpoint. The counter moves by the same step at each of the three reads, so the wall clock is
read halfway between the two counter reads around it, and a wall clock that changes between two
reads is not a frozen one.
-/

namespace SoftClock

/-- Two equal steps apart, the middle is one step on. -/
theorem PairedSample.midpoint_of_steps (wall : Timeval) {before step : UInt64}
    (h : before.toNat + step.toNat + step.toNat < 0x10000000000000000) :
    PairedSample.midpoint ⟨wall, before, before + step + step⟩ = before + step := by
  have hafter : (before + step + step).toNat = before.toNat + step.toNat + step.toNat := by
    rw [UInt64.toNat_add, UInt64.toNat_add]
    omega
  have hbracket : PairedSample.bracket ⟨wall, before, before + step + step⟩ =
      .ofNat (2 * step.toNat) := by
    simp only [PairedSample.bracket, hafter]
    congr 1
    omega
  have hhalf : UInt64.ofNat (2 * step.toNat) / 2 = step := by
    rw [← UInt64.toNat_inj, UInt64.toNat_div, UInt64.toNat_ofNat',
      show (2 : UInt64).toNat = 2 from rfl]
    omega
  rw [PairedSample.midpoint, hbracket, hhalf]

namespace Machine

open Simulated

/-- What a successful wall clock read of a simulated machine gives. -/
theorem wall_simulated {s t : Simulated} {wall : Timeval} (h : machine.wall s = (.ok wall, t)) :
    wall = s.frozenWall.getD (.ofExactNanos (s.wallNanosAt s.stepped.counter)) ∧ t = s.stepped := by
  simp only [machine, readWall] at h
  split at h
  · cases h
  · cases h
    exact ⟨rfl, rfl⟩

/-- What a counter read of a simulated machine gives. -/
theorem ticks_simulated {s t : Simulated} {ticks : UInt64} (h : machine.ticks s = (ticks, t)) :
    ticks = s.counter + s.step ∧ t = s.stepped := by
  cases h
  exact ⟨rfl, rfl⟩

/-- What a successful boot time read of a simulated machine gives. -/
theorem boot_simulated {s t : Simulated} {boot : Timeval} (h : machine.boot s = (.ok boot, t)) :
    boot = s.bootReport := by
  simp only [machine, readBoot] at h
  split at h
  · cases h
  · split at h
    · cases h
      rfl
    · cases h
      rfl

/-- A wall clock read between two counter reads. Each of the three reads moves the counter by the
same step, so the wall clock is read at the midpoint. -/
theorem bracket_simulated {c d e f : Simulated × List (MachineRecord Simulated)}
    {before after : UInt64} {wall : Timeval} (hbefore : machine.recorded.ticks c = (before, d))
    (hwall : machine.recorded.wall d = (.ok wall, e))
    (hafter : machine.recorded.ticks e = (after, f))
    (hfits : ∀ r ∈ f.2, r.ticksCounted < 0x8000000000000000) :
    PairedSample.midpoint ⟨wall, before, after⟩ = before + c.1.step ∧
      wall = c.1.frozenWall.getD (.ofExactNanos (c.1.wallNanosAt (before + c.1.step))) ∧
      ∃ r ∈ f.2, r.before.slept = c.1.slept ∧ r.ticksCounted = (before + c.1.step).toNat := by
  obtain ⟨hbefore, hd⟩ := recording_eq hbefore
  obtain ⟨hwall, he⟩ := recording_eq hwall
  obtain ⟨hafter, hf⟩ := recording_eq hafter
  obtain ⟨hbefore', hd1⟩ := ticks_simulated hbefore
  obtain ⟨hwall', he1⟩ := wall_simulated hwall
  obtain ⟨hafter', -⟩ := ticks_simulated hafter
  -- write every state as the first one, one, two and three steps on
  rw [hd1] at hwall'
  rw [he1, hd1] at hafter'
  change wall = c.1.frozenWall.getD
    (.ofExactNanos (c.1.wallNanosAt (c.1.counter + c.1.step + c.1.step))) at hwall'
  change after = c.1.counter + c.1.step + c.1.step + c.1.step at hafter'
  -- the record bounds the sums before they are cut to words, so none of the three wraps
  have hfirst := hfits ⟨c.1, .ticks before⟩ (by simp [hf, he, hd])
  have hsecond := hfits ⟨d.1, .wall (.ok wall)⟩ (by simp [hf, he])
  have hthird := hfits ⟨e.1, .ticks after⟩ (by simp [hf])
  rw [hd1] at hsecond
  rw [he1, hd1] at hthird
  change c.1.counter.toNat + c.1.step.toNat < _ at hfirst
  change (c.1.counter + c.1.step).toNat + c.1.step.toNat < _ at hsecond
  change (c.1.counter + c.1.step + c.1.step).toNat + c.1.step.toNat < _ at hthird
  rw [← hbefore'] at hwall' hafter' hsecond hthird
  have hsum : (before + c.1.step).toNat = before.toNat + c.1.step.toNat := by
    rw [UInt64.toNat_add]
    omega
  refine ⟨?_, hwall', ⟨d.1, .wall (.ok wall)⟩, by simp [hf, he], ?_, ?_⟩
  · rw [hafter']
    apply PairedSample.midpoint_of_steps
    omega
  · rw [hd1]
    rfl
  · show d.1.counter.toNat + d.1.step.toNat = _
    rw [hd1, hsum, hbefore']
    rfl

variable {s t : Simulated × List (MachineRecord Simulated)}

/-- A pair of a simulated machine has the wall time of its midpoint, which is the counter of the
recorded wall clock read. -/
theorem Observes.simulated {pair : PairedSample} (h : machine.recorded.Observes s t pair)
    (hbumps : s.1.bootBumps = 0) (hfits : ∀ r ∈ t.2, r.ticksCounted < 0x8000000000000000) :
    pair.wall = .ofExactNanos (s.1.wallNanosAt pair.midpoint) ∧
      ∃ r ∈ t.2, r.before.slept = s.1.slept ∧ r.ticksCounted = pair.midpoint.toNat := by
  cases h with
  | @intro a b c d e f start wall before after hsa hstart hbc hbefore hwall hafter hne hft =>
    have hsuffix := hft.suffix
    obtain ⟨hmidpoint, hwall, r, hr, hslept, hticks⟩ :=
      bracket_simulated hbefore hwall hafter fun r hr => hfits r (hsuffix.subset hr)
    -- up to the bracket only the counter has moved
    obtain ⟨j, ha⟩ := reads_eq hsa.of_recorded hbumps
    obtain ⟨hstart, hb⟩ := wall_simulated (recording_eq hstart).1
    obtain ⟨k, hc⟩ := reads_eq hbc.of_recorded (by rw [hb, ha]; exact hbumps)
    have hcs : c.1 = { s.1 with counter := k } := by
      rw [hc, hb, ha]
      rfl
    rw [ha] at hstart
    change start = s.1.frozenWall.getD _ at hstart
    rw [hcs] at hmidpoint hwall hslept hticks
    rw [hmidpoint]
    refine ⟨?_, r, hsuffix.subset hr, hslept, hticks⟩
    -- a frozen wall clock would have shown no change
    change wall = s.1.frozenWall.getD (.ofExactNanos (s.1.wallNanosAt (before + s.1.step))) at hwall
    cases hfrozen : s.1.frozenWall with
    | none =>
      rw [hfrozen] at hwall
      exact hwall
    | some frozen =>
      rw [hfrozen] at hwall hstart
      exact absurd (hwall.trans hstart.symm) hne

/-- A sample of a simulated machine has the reported boot time and the wall time of its midpoint. -/
theorem ObservesSample.simulated {sample : BootSample}
    (h : machine.recorded.ObservesSample s t sample) (hbumps : s.1.bootBumps = 0)
    (hfits : ∀ r ∈ t.2, r.ticksCounted < 0x8000000000000000) :
    sample.boot = s.1.bootReport ∧
      sample.pair.wall = .ofExactNanos (s.1.wallNanosAt sample.pair.midpoint) ∧
      ∃ r ∈ t.2, r.before.slept = s.1.slept ∧ r.ticksCounted = sample.pair.midpoint.toNat := by
  cases h with
  | @intro a b c boot pair hsa hboot hpair hagain =>
    obtain ⟨hboot, hb⟩ := recording_eq hboot
    obtain ⟨hagain, ht⟩ := recording_eq hagain
    obtain ⟨j, ha⟩ := reads_eq hsa.of_recorded hbumps
    have hbs : ∃ k, b.1 = { s.1 with counter := k } := by
      obtain ⟨k, hk⟩ := reads_eq (.of_boot hboot) (by rw [ha]; exact hbumps)
      exact ⟨k, by rw [hk, ha]⟩
    obtain ⟨k, hbs⟩ := hbs
    have hsuffix : c.2 <:+ t.2 := ht ▸ List.suffix_cons _ _
    obtain ⟨hwall, r, hr, hslept, hticks⟩ := hpair.simulated (by rw [hbs]; exact hbumps)
      (fun r hr => hfits r (hsuffix.subset hr))
    rw [hbs] at hwall hslept
    refine ⟨?_, hwall, r, hsuffix.subset hr, hslept, hticks⟩
    rw [boot_simulated hboot, ha]

end Machine

/-! ## Exact times -/

/-- A total whose seconds fit a signed word is reported to the microsecond below it. -/
theorem Timeval.exactNanos_ofExactNanos {nanos : ℤ} (hlow : -0x8000000000000000 ≤ nanos)
    (hhigh : nanos < 0x100000000000000000) :
    (Timeval.ofExactNanos nanos).exactNanos = nanos / 1000 * 1000 := by
  refine exactNanos_of_fitsSeconds ⟨?_, ?_⟩ <;> omega

end SoftClock
