import SoftClock.Clock
import SoftClock.Proofs.Continuous.Reading

/-!
# What a Clock Operation Does

Every operation of a clock that needs ticks goes through the same phases: the scale is read if it is
not known yet, the sleep offset may be estimated, and then the counter is read.

* `Clock.Advanced` relates a clock and a machine before an operation to those after its first two
  phases;
* `Clock.readContinuous_advanced` says what the operations on the continuous count make of them,
  which is one counter read and the addend;
* `ReadsAgree.queryNanos` and its companions: agreeing machines are asked alike.
-/

namespace SoftClock

variable {σ τ : Type} {m : Machine σ} {n : Machine τ} {R : σ → τ → Prop}

/-- A count without what is finer than a microsecond, as a number. -/
theorem toNat_floorToMicros (nanos : UInt64) :
    (floorToMicros nanos).toNat = nanos.toNat / 1000 * 1000 := by
  have hle : nanos % 1000 ≤ nanos := by
    rw [UInt64.le_iff_toNat_le, UInt64.toNat_mod]
    exact Nat.mod_le _ _
  rw [floorToMicros, UInt64.toNat_sub_of_le _ _ hle, UInt64.toNat_mod]
  change nanos.toNat - nanos.toNat % 1000 = _
  omega

/-- The converter of a ratio that may not be known. -/
def Converter.ofRatio? : Option Ratio → Converter
  | none => .degraded
  | some ratio => .calibrated ratio

namespace Clock

/-- What is known of the scale after it was asked for: what was known before, or the ratio of a
scale that was read while none was known. -/
inductive Calibrates (m : Machine σ) (c : Clock) (s : σ) : Option Ratio → σ → Prop
  | kept {t : σ} : m.Reads s t → Calibrates m c s c.ratio? t
  | read {t : σ} {scale : Scale} {ratio : Ratio} :
    c.ratio? = none → m.scale s = (.ok scale, t) → Ratio.ofScale scale = .ok ratio →
      Calibrates m c s (some ratio) t

/-- Calibrating only reads the machine. -/
theorem Calibrates.reads {c : Clock} {s t : σ} {ratio? : Option Ratio}
    (h : Calibrates m c s ratio? t) : m.Reads s t := by
  cases h with
  | kept hreads => exact hreads
  | read _ hscale _ => exact .of_scale hscale

/-- A known ratio stays. -/
theorem Calibrates.of_some {c : Clock} {s t : σ} {ratio? : Option Ratio} {ratio : Ratio}
    (h : Calibrates m c s ratio? t) (hratio : c.ratio? = some ratio) : ratio? = some ratio := by
  cases h with
  | kept hreads => exact hratio
  | read hnone _ _ =>
    rw [hnone] at hratio
    cases hratio

/-- Asking for the converter calibrates, and gives the converter of what is known then. -/
theorem converter_calibrates (m : Machine σ) (c : Clock) (s : σ) :
    ∃ ratio? t, Calibrates m c s ratio? t ∧
      c.converter m s = (Converter.ofRatio? ratio?, { c with ratio? }, t) := by
  cases hratio : c.ratio? with
  | some ratio =>
    refine ⟨c.ratio?, s, .kept (.refl s), ?_⟩
    obtain ⟨settings, _, continuous⟩ := c
    cases hratio
    rfl
  | none =>
    -- a failed read of the scale, and a scale without a ratio, both leave it unknown
    have hkept {t : σ} (hscale : m.Reads s t) :
        Calibrates m c s none t := by
      rw [← hratio]
      exact .kept hscale
    have hsame : ({ c with ratio? := none } : Clock) = c := by
      obtain ⟨settings, _, continuous⟩ := c
      cases hratio
      rfl
    rcases hscale : m.scale s with ⟨answer, t⟩
    cases answer with
    | error e =>
      refine ⟨none, t, hkept (.of_scale hscale), ?_⟩
      simp only [converter, hratio, hscale, hsame]
      rfl
    | ok scale =>
      cases hofScale : Ratio.ofScale scale with
      | error e =>
        refine ⟨none, t, hkept (.of_scale hscale), ?_⟩
        simp only [converter, hratio, hscale, hofScale, hsame]
        rfl
      | ok ratio =>
        refine ⟨some ratio, t, .read hratio hscale hofScale, ?_⟩
        simp only [converter, hratio, hscale, hofScale]
        rfl

/-- How a clock and a machine come out of calibrating and of preparing the continuous count, with
the outcome of an estimate if there was one. -/
inductive Advanced (m : Machine σ) (c : Clock) (s : σ) :
    Option (Except ClockError RefreshOutcome) → Clock → σ → Prop
  | intro {t u : σ} {ratio? : Option Ratio} {continuous : Continuous}
    {outcome? : Option (Except ClockError RefreshOutcome)} :
    Calibrates m c s ratio? t →
    Continuous.Prepared m (Converter.ofRatio? ratio?) c.settings c.continuous t outcome? continuous
      u →
    Advanced m c s outcome? { c with ratio?, continuous } u

/-- Advancing only reads the machine. -/
theorem Advanced.reads {c c' : Clock} {s t : σ}
    {outcome? : Option (Except ClockError RefreshOutcome)} (h : Advanced m c s outcome? c' t) :
    m.Reads s t := by
  cases h with
  | intro hcalibrates hprepared => exact hcalibrates.reads.trans hprepared.reads

/-- Nothing at all may happen. -/
theorem Advanced.refl (m : Machine σ) (c : Clock) (s : σ) : Advanced m c s none c s :=
  .intro (.kept (.refl s)) (.idle (.refl s))

/-- Calibrating alone leaves the continuous count as it is. -/
theorem Advanced.of_calibrates {c : Clock} {s t : σ} {ratio? : Option Ratio}
    (h : Calibrates m c s ratio? t) : Advanced m c s none { c with ratio? } t :=
  .intro h (.idle (.refl t))

/-- The outcome of the estimate that a read of the continuous count makes first, if it makes one. -/
def attempt? (m : Machine σ) (c : Clock) (s : σ) : Option (Except ClockError RefreshOutcome) :=
  match c.converter m s with
  | (converter, c, s) => c.continuous.attempt? m converter c.settings s

/-- A read of the continuous count over one way to read the counter, with the converter that was in
use. -/
def readContinuous (read : σ → UInt64 × σ) (m : Machine σ) (c : Clock) (s : σ) :
    Converter × UInt64 × Clock × σ :=
  match c.converter m s with
  | (converter, c, s) =>
    match c.continuous.readWith read m converter c.settings s with
    | (ticks, continuous, s) => (converter, ticks, { c with continuous := continuous }, s)

theorem continuousTime_eq (m : Machine σ) (c : Clock) (s : σ) :
    c.continuousTime m s = (c.readContinuous m.ticks m s).2 := rfl

theorem continuousApproxTime_eq (m : Machine σ) (c : Clock) (s : σ) :
    c.continuousApproxTime m s = (c.readContinuous m.approxTicks m s).2 := rfl

theorem monotonicNanos_eq (m : Machine σ) (c : Clock) (s : σ) :
    c.monotonicNanos m s =
      (floorToMicros ((c.readContinuous m.ticks m s).1.ticksToNanos
        (c.readContinuous m.ticks m s).2.1), (c.readContinuous m.ticks m s).2.2) := rfl

/-- A read of the continuous count advances the clock, reads the counter once, and gives the sum of
that read and the addend. -/
theorem readContinuous_advanced (read : σ → UInt64 × σ) (m : Machine σ) (c : Clock) (s : σ) :
    ∃ c' t, Advanced m c s (c.attempt? m s) c' t ∧
      c.readContinuous read m s =
        (Converter.ofRatio? c'.ratio?, (read t).1 + c'.continuous.addend, c', (read t).2) := by
  obtain ⟨ratio?, t, hcalibrates, hconverter⟩ := c.converter_calibrates m s
  obtain ⟨continuous, u, hprepared, hread⟩ := Continuous.readWith_prepared read m
    (Converter.ofRatio? ratio?) c.settings c.continuous t
  refine ⟨{ c with ratio?, continuous }, u, ?_, ?_⟩
  · rw [attempt?, hconverter]
    exact .intro hcalibrates hprepared
  · simp only [readContinuous, hconverter, hread]

/-- An estimate on request advances the clock with its outcome. -/
theorem refreshOffset_advanced (m : Machine σ) (c : Clock) (s : σ) :
    ∃ c' t, Advanced m c s (some (c.refreshOffset m s).1) c' t ∧
      (c.refreshOffset m s).2 = (c', t) := by
  obtain ⟨ratio?, t, hcalibrates, hconverter⟩ := c.converter_calibrates m s
  rcases hrefresh : c.continuous.refresh m (Converter.ofRatio? ratio?) c.settings t with
    ⟨outcome, continuous, u⟩
  refine ⟨{ c with ratio?, continuous }, u, ?_, ?_⟩
  · simp only [refreshOffset, hconverter, hrefresh]
    exact .intro hcalibrates (Continuous.refresh_prepared hrefresh)
  · simp only [refreshOffset, hconverter, hrefresh]

/-- The time of `monotonic` is that of the continuous count, and always an answer. -/
theorem queryNanos_monotonic (m : Machine σ) (c : Clock) (s : σ) :
    ∃ c' t, Advanced m c s (c.attempt? m s) c' t ∧
      c.queryNanos m .monotonic s =
        (.ok (floorToMicros ((Converter.ofRatio? c'.ratio?).ticksToNanos
          ((m.ticks t).1 + c'.continuous.addend))), c', (m.ticks t).2) := by
  obtain ⟨c', t, hadvanced, hread⟩ := c.readContinuous_advanced m.ticks m s
  refine ⟨c', t, hadvanced, ?_⟩
  rw [queryNanos, monotonicNanos_eq, hread]

/-- A plain counter is read after calibrating. -/
theorem counterNanos_advanced {read : σ → UInt64 × σ} (hread : ∀ s, m.Reads s (read s).2)
    (c : Clock) (s : σ) :
    ∃ c' t u, Advanced m c s none c' t ∧ m.Reads t u ∧
      (c.counterNanos read m s).2 = (c', u) := by
  obtain ⟨ratio?, t, hcalibrates, hconverter⟩ := c.converter_calibrates m s
  refine ⟨{ c with ratio? }, t, (read t).2, .of_calibrates hcalibrates, hread t, ?_⟩
  rw [counterNanos, hconverter]

/-- The times of the other clocks leave the continuous count alone. -/
theorem queryNanos_of_ne_monotonic (m : Machine σ) {id : ClockId} (hid : id ≠ .monotonic)
    (c : Clock) (s : σ) :
    ∃ c' t u, Advanced m c s none c' t ∧ m.Reads t u ∧
      (c.queryNanos m id s).2 = (c', u) := by
  cases id with
  | monotonic => exact absurd rfl hid
  | realtime => exact ⟨c, s, _, .refl m c s, .single (.wall s), rfl⟩
  | processCputime => exact ⟨c, s, _, .refl m c s, .single (.processCpu s), rfl⟩
  | threadCputime => exact ⟨c, s, _, .refl m c s, .single (.threadCpu s), rfl⟩
  | monotonicRaw | uptimeRaw => exact counterNanos_advanced (fun s => .single (.ticks s)) c s
  | monotonicRawApprox | uptimeRawApprox =>
    exact counterNanos_advanced (fun s => .single (.approxTicks s)) c s

/-- A resolution needs the converter at most. -/
theorem resolution_advanced (m : Machine σ) (id : ClockId) (c : Clock) (s : σ) :
    ∃ c' t, Advanced m c s none c' t ∧ (c.resolution m id s).2 = (c', t) := by
  rw [resolution]
  split
  · obtain ⟨ratio?, t, hcalibrates, hconverter⟩ := c.converter_calibrates m s
    refine ⟨{ c with ratio? }, t, .of_calibrates hcalibrates, ?_⟩
    rw [hconverter]
    dsimp only
    split <;> rfl
  · exact ⟨c, s, .refl m c s, rfl⟩

end Clock

/-! ## Agreement -/

namespace Machine.ReadsAgree

/-- Agreeing machines give the same converter. -/
theorem converter (h : m.ReadsAgree n R) (c : Clock) {s : σ} {t : τ} (hst : R s t) :
    Agree (Agree R) (c.converter m s) (c.converter n t) := by
  rw [Clock.converter, Clock.converter]
  split
  · exact ⟨rfl, rfl, hst⟩
  · obtain ⟨answer, s', t', hm, hn, h'⟩ := (h.scale hst).cases
    rw [hm, hn]
    cases answer with
    | error e => exact ⟨rfl, rfl, h'⟩
    | ok scale =>
      dsimp only
      split
      · exact ⟨rfl, rfl, h'⟩
      · exact ⟨rfl, rfl, h'⟩

/-- Agreeing machines make the same attempt for a clock. -/
theorem attemptOf (h : m.ReadsAgree n R) (c : Clock) {s : σ} {t : τ} (hst : R s t) :
    c.attempt? m s = c.attempt? n t := by
  obtain ⟨converter, ⟨c', s'⟩, ⟨_, t'⟩, hm, hn, rfl, h'⟩ := (h.converter c hst).cases
  rw [Clock.attempt?, Clock.attempt?, hm, hn]
  exact h.attempt? converter c'.settings c'.continuous h'

/-- Agreeing machines give the same estimate for a clock. -/
theorem refreshOffset (h : m.ReadsAgree n R) (c : Clock) {s : σ} {t : τ} (hst : R s t) :
    Agree (Agree R) (c.refreshOffset m s) (c.refreshOffset n t) := by
  obtain ⟨converter, ⟨c', s'⟩, ⟨_, t'⟩, hm, hn, rfl, h'⟩ := (h.converter c hst).cases
  obtain ⟨outcome, ⟨k, s''⟩, ⟨_, t''⟩, hm', hn', rfl, h''⟩ :=
    (h.refreshCount converter c'.settings c'.continuous h').cases
  simp only [Clock.refreshOffset, hm, hn, hm', hn']
  exact ⟨rfl, rfl, h''⟩

/-- Agreeing machines build the same clock. -/
theorem withSettings (h : m.ReadsAgree n R) (settings : Settings) {s : σ} {t : τ} (hst : R s t) :
    Agree R (Clock.withSettings m settings s) (Clock.withSettings n settings t) := by
  simp only [Clock.withSettings]
  split
  · exact (h.refreshOffset _ hst).2
  · exact ⟨rfl, hst⟩

/-- Agreeing machines give the same continuous count, by counters that agree. -/
theorem readContinuous (h : m.ReadsAgree n R) {read : σ → UInt64 × σ} {read' : τ → UInt64 × τ}
    (hread : ∀ {s t}, R s t → Agree R (read s) (read' t)) (c : Clock) {s : σ} {t : τ}
    (hst : R s t) :
    Agree (Agree (Agree R)) (c.readContinuous read m s) (c.readContinuous read' n t) := by
  obtain ⟨converter, ⟨c', s'⟩, ⟨_, t'⟩, hm, hn, rfl, h'⟩ := (h.converter c hst).cases
  obtain ⟨ticks, ⟨k, s''⟩, ⟨_, t''⟩, hm', hn', rfl, h''⟩ :=
    (h.readWith hread converter c'.settings c'.continuous h').cases
  simp only [Clock.readContinuous, hm, hn, hm', hn']
  exact ⟨rfl, rfl, rfl, h''⟩

/-- Agreeing machines give the same time of `monotonic`. -/
theorem monotonicNanos (h : m.ReadsAgree n R) (c : Clock) {s : σ} {t : τ} (hst : R s t) :
    Agree (Agree R) (c.monotonicNanos m s) (c.monotonicNanos n t) := by
  obtain ⟨converter, ⟨ticks, c', s'⟩, ⟨_, _, t'⟩, hm, hn, rfl, rfl, h'⟩ :=
    (h.readContinuous h.ticks c hst).cases
  rw [Clock.monotonicNanos_eq, Clock.monotonicNanos_eq, hm, hn]
  exact ⟨rfl, rfl, h'⟩

/-- Agreeing machines give the same time of a plain counter. -/
theorem counterNanos (h : m.ReadsAgree n R) {read : σ → UInt64 × σ} {read' : τ → UInt64 × τ}
    (hread : ∀ {s t}, R s t → Agree R (read s) (read' t)) (c : Clock) {s : σ} {t : τ}
    (hst : R s t) :
    Agree (Agree R) (c.counterNanos read m s) (c.counterNanos read' n t) := by
  obtain ⟨converter, ⟨c', s'⟩, ⟨_, t'⟩, hm, hn, rfl, h'⟩ := (h.converter c hst).cases
  obtain ⟨ticks, s'', t'', hm', hn', h''⟩ := (hread h').cases
  simp only [Clock.counterNanos, hm, hn, hm', hn']
  exact ⟨rfl, rfl, h''⟩

/-- Agreeing machines give the same time of every clock. -/
theorem queryNanos (h : m.ReadsAgree n R) (id : ClockId) (c : Clock) {s : σ} {t : τ}
    (hst : R s t) : Agree (Agree R) (c.queryNanos m id s) (c.queryNanos n id t) := by
  -- wall and processor times are passed on
  have hpassed {x : Except ClockError Timeval × σ} {y : Except ClockError Timeval × τ}
      (hxy : Agree R x y) :
      Agree (Agree R) (x.1.map Timeval.nanos, c, x.2) (y.1.map Timeval.nanos, c, y.2) := by
    obtain ⟨answer, s', t', rfl, rfl, h'⟩ := hxy.cases
    exact ⟨rfl, rfl, h'⟩
  -- counters cannot fail
  have hcounted {x : UInt64 × Clock × σ} {y : UInt64 × Clock × τ} (hxy : Agree (Agree R) x y) :
      Agree (Agree R) ((.ok x.1, x.2) : Except ClockError UInt64 × Clock × σ) (.ok y.1, y.2) := by
    obtain ⟨nanos, ⟨c', s'⟩, ⟨_, t'⟩, rfl, rfl, rfl, h'⟩ := hxy.cases
    exact ⟨rfl, rfl, h'⟩
  cases id with
  | realtime => exact hpassed (h.wall hst)
  | processCputime => exact hpassed (h.processCpu hst)
  | threadCputime => exact hpassed (h.threadCpu hst)
  | monotonicRaw | uptimeRaw => exact hcounted (h.counterNanos h.ticks c hst)
  | monotonicRawApprox | uptimeRawApprox => exact hcounted (h.counterNanos h.approxTicks c hst)
  | monotonic => exact hcounted (h.monotonicNanos c hst)

/-- Agreeing machines give the same split time of every clock. -/
theorem querySplit (h : m.ReadsAgree n R) (id : ClockId) (c : Clock) {s : σ} {t : τ}
    (hst : R s t) : Agree (Agree R) (c.querySplit m id s) (c.querySplit n id t) := by
  rw [Clock.querySplit, Clock.querySplit]
  split
  · obtain ⟨answer, s', t', hm, hn, h'⟩ := (h.wall hst).cases
    rw [hm, hn]
    exact ⟨rfl, rfl, h'⟩
  · obtain ⟨answer, ⟨c', s'⟩, ⟨_, t'⟩, hm, hn, rfl, h'⟩ := (h.queryNanos id c hst).cases
    rw [hm, hn]
    exact ⟨rfl, rfl, h'⟩

/-- Agreeing machines give the same resolution of every clock. -/
theorem resolution (h : m.ReadsAgree n R) (id : ClockId) (c : Clock) {s : σ} {t : τ}
    (hst : R s t) : Agree (Agree R) (c.resolution m id s) (c.resolution n id t) := by
  rw [Clock.resolution, Clock.resolution]
  split
  · obtain ⟨converter, ⟨c', s'⟩, ⟨_, t'⟩, hm, hn, rfl, h'⟩ := (h.converter c hst).cases
    rw [hm, hn]
    dsimp only
    split
    · exact ⟨rfl, rfl, h'⟩
    · exact ⟨rfl, rfl, h'⟩
  · exact ⟨rfl, rfl, hst⟩

end Machine.ReadsAgree

/-- Agreeing machines are set alike. -/
theorem Machine.CallsAgree.setTime (h : m.CallsAgree n R) (id : ClockId) (time : Timespec) {s : σ}
    {t : τ} (hst : R s t) : Agree R (Clock.setTime m id time s) (Clock.setTime n id time t) := by
  rw [Clock.setTime, Clock.setTime]
  split
  · split
    · exact h.setWall _ hst
    · exact ⟨rfl, hst⟩
  · exact ⟨rfl, hst⟩

end SoftClock
