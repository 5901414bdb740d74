import SoftClock.Duration.Text
import SoftClock.Json.Reader
import SoftClock.Offset.Estimator
import SoftClock.Time.ClockId

/-!
# Domain Values as JSON

The stored form of time values, scales, counters, settings and snapshots.

* Records are objects with one field per value. Readers ignore fields of other names and the order
  of fields, refuse a repeated field, and also take an array with the values in order.
* Integers must be written without fraction and exponent and lie in the range of their type.
* Names are strings, or objects whose only field has that name and the value `null`.
-/

namespace SoftClock

namespace Json

/-! ## Reading parts -/

/-- An integer within a range. -/
def int? (lo hi : Int) : Json → Option Int
  | .integer value => if lo ≤ value ∧ value ≤ hi then some value else none
  | _ => none

/-- A signed word. -/
def int64? (value : Json) : Option Int64 :=
  (value.int? (-0x8000000000000000) 0x7fffffffffffffff).map .ofInt

/-- An unsigned word. -/
def uint64? (value : Json) : Option UInt64 :=
  (value.int? 0 0xffffffffffffffff).map fun n => .ofNat n.toNat

/-- An unsigned half word. -/
def uint32? (value : Json) : Option UInt32 :=
  (value.int? 0 0xffffffff).map fun n => .ofNat n.toNat

/-- A truth value. -/
def bool? : Json → Option Bool
  | .bool value => some value
  | _ => none

/-- A string that has a text. -/
def text? : Json → Option String
  | .string (.text text) => some text
  | _ => none

/-- A value that may be `null`. -/
def nullable? {α : Type} (decode : Json → Option α) : Json → Option (Option α)
  | .null => some none
  | value => (decode value).map some

/-- A name: a string, or an object with that one field holding `null`. -/
def name? : Json → Option String
  | .string (.text text) => some text
  | .object [(.text text, .null)] => some text
  | _ => none

/-- The values of the fields with a name. -/
def fieldValues (fields : List (JsonText × Json)) (name : String) : List Json :=
  (fields.filter fun field => field.1 = .text name).map (·.2)

/-- The values of named fields, where `none` stands for a field that is missing. An array stands for
the fields in order; with `mayEnd` it may leave out the last ones. -/
def fields? (names : List String) (mayEnd : Bool) : Json → Option (List (Option Json))
  | .object fields =>
    if fields.all (fun field => field.1 ≠ .unpaired) ∧
        names.all (fun name => (fieldValues fields name).length ≤ 1) then
      some (names.map fun name => (fieldValues fields name).head?)
    else
      none
  | .array items =>
    if items.length = names.length ∨ (mayEnd = true ∧ items.length < names.length) then
      some ((items.map some).rightpad names.length none)
    else
      none
  | _ => none

/-- The value of a field that may be missing. -/
def orElse? {α : Type} (decode : Json → Option α) (default : α) : Option Json → Option α
  | none => some default
  | some value => decode value

end Json

open Json

/-! ## Names -/

/-- The stored form of a clock. -/
def ClockId.toJson (id : ClockId) : Json := .ofString id.key

/-- The clock of a stored form. -/
def ClockId.ofJson? (value : Json) : Option ClockId := value.name?.bind ClockId.ofKey?

/-- The stored form of a mode. -/
def ContinuousMode.toJson (mode : ContinuousMode) : Json := .ofString mode.key

/-- The mode of a stored form. -/
def ContinuousMode.ofJson? (value : Json) : Option ContinuousMode :=
  value.name?.bind ContinuousMode.ofKey?

/-! ## Time values and scales -/

/-- The stored form of a time with nanoseconds. -/
def Timespec.toJson (time : Timespec) : Json :=
  .record [("tv_sec", .ofInt64 time.sec), ("tv_nsec", .ofInt64 time.nsec)]

/-- The time with nanoseconds of a stored form. -/
def Timespec.ofJson? (value : Json) : Option Timespec :=
  match value.fields? ["tv_sec", "tv_nsec"] false with
  | some [some sec, some nsec] => do return ⟨← sec.int64?, ← nsec.int64?⟩
  | _ => none

/-- The stored form of a time with microseconds. -/
def Timeval.toJson (time : Timeval) : Json :=
  .record [("tv_sec", .ofInt64 time.sec), ("tv_usec", .ofInt64 time.usec)]

/-- The time with microseconds of a stored form. -/
def Timeval.ofJson? (value : Json) : Option Timeval :=
  match value.fields? ["tv_sec", "tv_usec"] false with
  | some [some sec, some usec] => do return ⟨← sec.int64?, ← usec.int64?⟩
  | _ => none

/-- The stored form of a scale. -/
def Scale.toJson (scale : Scale) : Json :=
  .record [("numer", .ofUInt32 scale.numer), ("denom", .ofUInt32 scale.denom)]

/-- The scale of a stored form. -/
def Scale.ofJson? (value : Json) : Option Scale :=
  match value.fields? ["numer", "denom"] false with
  | some [some numer, some denom] => do return ⟨← numer.uint32?, ← denom.uint32?⟩
  | _ => none

/-! ## Counters and snapshots -/

/-- The stored form of counters. -/
def Counters.toJson (c : Counters) : Json :=
  .record [("attempts", .ofUInt64 c.attempts), ("commits", .ofUInt64 c.commits),
    ("rejections", .ofUInt64 c.rejections), ("boot_restarts", .ofUInt64 c.bootRestarts),
    ("exhausted", .ofUInt64 c.exhausted), ("read_failures", .ofUInt64 c.readFailures),
    ("best_bracket_ticks", .ofOption .ofUInt64 c.bestBracket)]

/-- The counters of a stored form. The best bracket may be missing from an object. -/
def Counters.ofJson? (value : Json) : Option Counters :=
  match value.fields? ["attempts", "commits", "rejections", "boot_restarts", "exhausted",
    "read_failures", "best_bracket_ticks"] false with
  | some [some attempts, some commits, some rejections, some bootRestarts, some exhausted,
      some readFailures, bestBracket] => do
    return {
      attempts := ← attempts.uint64?
      commits := ← commits.uint64?
      rejections := ← rejections.uint64?
      bootRestarts := ← bootRestarts.uint64?
      exhausted := ← exhausted.uint64?
      readFailures := ← readFailures.uint64?
      bestBracket := ← orElse? (nullable? uint64?) none bestBracket }
  | _ => none

/-- The stored form of a snapshot. -/
def OffsetSnapshot.toJson (snapshot : OffsetSnapshot) : Json :=
  .record [("committed_ticks", .ofUInt64 snapshot.committed),
    ("raw_ticks", .ofOption .ofInt64 snapshot.raw),
    ("negative_baseline_ticks", .ofOption .ofInt64 snapshot.baseline),
    ("valid", .bool snapshot.valid), ("stats", snapshot.counters.toJson)]

/-! ## Settings -/

/-- The stored form of a duration. -/
def Duration.toJson (d : Duration) : Json := .ofString d.format

/-- The duration of a stored form. -/
def Duration.ofJson? (value : Json) : Option Duration := value.text?.bind Duration.parse?

/-- The names of the settings in stored data, in the order in which they are written. -/
def Settings.keys : List String :=
  ["samples_per_attempt", "max_boot_restarts", "max_wall_polls", "min_offset_advance",
    "max_drift_ppm", "continuous_mode", "eager_init", "recalibrate_interval"]

/-- The stored form of settings. An interval that is not set is left out. -/
def Settings.toJson (settings : Settings) : Json :=
  .record ([("samples_per_attempt", .ofUInt32 settings.samplesPerAttempt),
    ("max_boot_restarts", .ofUInt32 settings.maxBootRestarts),
    ("max_wall_polls", .ofUInt32 settings.maxWallPolls),
    ("min_offset_advance", settings.minOffsetAdvance.toJson),
    ("max_drift_ppm", .ofUInt32 settings.maxDriftPpm),
    ("continuous_mode", settings.continuousMode.toJson),
    ("eager_init", .bool settings.eagerInit)] ++
    (settings.recalibrateInterval.map fun interval =>
      ("recalibrate_interval", interval.toJson)).toList)

/-- The settings of a stored form. Every setting may be missing and has its default then. -/
def Settings.ofJson? (value : Json) : Option Settings :=
  let default : Settings := {}
  match value.fields? Settings.keys true with
  | some [samplesPerAttempt, maxBootRestarts, maxWallPolls, minOffsetAdvance, maxDriftPpm,
      continuousMode, eagerInit, recalibrateInterval] => do
    return {
      samplesPerAttempt := ← orElse? uint32? default.samplesPerAttempt samplesPerAttempt
      maxBootRestarts := ← orElse? uint32? default.maxBootRestarts maxBootRestarts
      maxWallPolls := ← orElse? uint32? default.maxWallPolls maxWallPolls
      minOffsetAdvance := ← orElse? Duration.ofJson? default.minOffsetAdvance minOffsetAdvance
      maxDriftPpm := ← orElse? uint32? default.maxDriftPpm maxDriftPpm
      continuousMode := ← orElse? ContinuousMode.ofJson? default.continuousMode continuousMode
      eagerInit := ← orElse? bool? default.eagerInit eagerInit
      recalibrateInterval :=
        ← orElse? (nullable? Duration.ofJson?) default.recalibrateInterval recalibrateInterval }
  | _ => none

end SoftClock
