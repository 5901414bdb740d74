import SoftClock.ClockError
import SoftClock.Text.Blank
import SoftClock.Text.Quoted

/-!
# Clock Identifiers

The eight clocks that can be asked for, with their numeric identifiers, their header names, and the
texts that name them. A text is first tried as an integer, exactly as written; only a text that is
no 32-bit integer is tried as a name, where surrounding white space, ASCII case, `-` for `_`, and
one leading `CLOCK_` do not matter.
-/

namespace SoftClock

/-- A clock that can be read. -/
inductive ClockId where
  /-- Settable wall clock. -/
  | realtime
  /-- Counts through sleep and never goes back. -/
  | monotonic
  /-- Tick counter. -/
  | monotonicRaw
  /-- Coarse view of the tick counter. -/
  | monotonicRawApprox
  /-- Tick counter under its uptime name. -/
  | uptimeRaw
  /-- Coarse view of the tick counter under its uptime name. -/
  | uptimeRawApprox
  /-- Processor time of the process. -/
  | processCputime
  /-- Processor time of the calling thread. -/
  | threadCputime
  deriving DecidableEq, Repr

namespace ClockId

/-- Every clock, by increasing identifier. -/
def all : List ClockId :=
  [.realtime, .monotonicRaw, .monotonicRawApprox, .monotonic, .uptimeRaw, .uptimeRawApprox,
    .processCputime, .threadCputime]

/-- The numeric identifier. -/
def raw : ClockId → Int32
  | .realtime => 0
  | .monotonicRaw => 4
  | .monotonicRawApprox => 5
  | .monotonic => 6
  | .uptimeRaw => 8
  | .uptimeRawApprox => 9
  | .processCputime => 12
  | .threadCputime => 16

/-- The header name without its leading `CLOCK_`. -/
def label : ClockId → String
  | .realtime => "REALTIME"
  | .monotonicRaw => "MONOTONIC_RAW"
  | .monotonicRawApprox => "MONOTONIC_RAW_APPROX"
  | .monotonic => "MONOTONIC"
  | .uptimeRaw => "UPTIME_RAW"
  | .uptimeRawApprox => "UPTIME_RAW_APPROX"
  | .processCputime => "PROCESS_CPUTIME_ID"
  | .threadCputime => "THREAD_CPUTIME_ID"

/-- The header name. -/
def name (id : ClockId) : String := "CLOCK_" ++ id.label

/-- The name in stored data. -/
def key : ClockId → String
  | .realtime => "realtime"
  | .monotonic => "monotonic"
  | .monotonicRaw => "monotonic_raw"
  | .monotonicRawApprox => "monotonic_raw_approx"
  | .uptimeRaw => "uptime_raw"
  | .uptimeRawApprox => "uptime_raw_approx"
  | .processCputime => "process_cputime"
  | .threadCputime => "thread_cputime"

/-- Whether a clock is computed from the tick counter. -/
def isTickDerived : ClockId → Bool
  | .monotonic | .monotonicRaw | .monotonicRawApprox | .uptimeRaw | .uptimeRawApprox => true
  | .realtime | .processCputime | .threadCputime => false

/-- The clock with a numeric identifier. -/
def ofRaw (raw : Int32) : Except ClockError ClockId :=
  match all.find? fun id => id.raw == raw with
  | some id => .ok id
  | none => .error (.invalidClock raw)

/-- The clock with a name in stored data. -/
def ofKey? (key : String) : Option ClockId := all.find? fun id => id.key == key

/-- The form in which names are compared: trimmed, in capitals, with underscores. -/
def canonicalName (text : List Char) : List Char :=
  let capitals := (Text.trimBlank text).map fun c => if c = '-' then '_' else c.toUpper
  ("CLOCK_".toList.isPrefixOf? capitals).getD capitals

/-- The clock that a text names, by identifier or by name. -/
def parse (text : String) : Except ClockError ClockId :=
  match Text.readInteger (-2147483648) 2147483647 text.toList with
  | .ok raw => ofRaw (Int32.ofInt raw)
  | .error _ =>
    match all.find? fun id => id.label.toList == canonicalName text.toList with
    | some id => .ok id
    | none =>
      .error (.invalidArgument ("unknown clock name " ++ String.ofList (Text.quoted text.toList)))

end ClockId

end SoftClock
