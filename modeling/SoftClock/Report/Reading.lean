import SoftClock.Clock
import SoftClock.Json.Records
import SoftClock.Text.Column

/-!
# Readings and the Clock Table

One reading of one clock, and the table of all clocks with their times and resolutions.
-/

namespace SoftClock

variable {σ : Type}

/-- One reading of a clock. -/
structure Reading where
  clock : ClockId
  time : Timespec
  deriving DecidableEq, Repr

namespace Reading

/-- Read a clock once. -/
def take (m : Machine σ) (id : ClockId) (c : Clock) (s : σ) :
    Except ClockError Reading × Clock × σ :=
  match c.querySplit m id s with
  | (time, c, s) => (time.map fun time => ⟨id, time⟩, c, s)

/-- The name of the clock and its time. -/
def text (r : Reading) : String := r.clock.name ++ " " ++ r.time.format

/-- The stored form of a reading. -/
def toJson (r : Reading) : Json :=
  .record [("clock", r.clock.toJson), ("id", .integer r.clock.raw.toInt), ("time", r.time.toJson)]

end Reading

/-- A row of the clock table. -/
structure ClockRow where
  clock : ClockId
  /-- The time, if it could be read. -/
  time : Option Timespec
  /-- The resolution, if it could be had. -/
  resolution : Option Timespec
  /-- What went wrong, if anything did. -/
  error : Option String
  deriving DecidableEq, Repr

namespace ClockRow

/-- The row of a clock: first its time, then its resolution. -/
def take (m : Machine σ) (id : ClockId) (c : Clock) (s : σ) : ClockRow × Clock × σ :=
  match c.querySplit m id s with
  | (time, c, s) =>
    match c.resolution m id s with
    | (resolution, c, s) =>
      let error :=
        match time, resolution with
        | .error e, _ => some e.message
        | .ok _, .error e => some e.message
        | .ok _, .ok _ => none
      (⟨id, time.toOption, resolution.toOption, error⟩, c, s)

/-- The rows of a list of clocks. -/
def takeEach (m : Machine σ) : List ClockId → Clock → σ → List ClockRow × Clock × σ
  | [], c, s => ([], c, s)
  | id :: ids, c, s =>
    match take m id c s with
    | (row, c, s) =>
      match takeEach m ids c s with
      | (rows, c, s) => (row :: rows, c, s)

/-- The rows of all clocks. -/
def takeAll (m : Machine σ) (c : Clock) (s : σ) : List ClockRow × Clock × σ :=
  takeEach m ClockId.all c s

/-- The stored form of a row. -/
def toJson (row : ClockRow) : Json :=
  .record [("clock", row.clock.toJson), ("id", .integer row.clock.raw.toInt),
    ("time", .ofOption Timespec.toJson row.time),
    ("resolution", .ofOption Timespec.toJson row.resolution),
    ("error", .ofOption .ofString row.error)]

/-- Four columns side by side. -/
def columns (clock id time resolution : String) : String :=
  Text.padRight 26 clock ++ " " ++ Text.padLeft 3 id ++ " " ++ Text.padLeft 22 time ++ " " ++
    Text.padLeft 12 resolution

/-- The line of a row; a failure follows the columns in parentheses. -/
def line (row : ClockRow) : String :=
  columns row.clock.name (Text.decimal row.clock.raw.toInt)
      ((row.time.map Timespec.format).getD "-")
      ((row.resolution.map fun r => Text.decimal r.nanos.toNat ++ "ns").getD "-") ++
    (row.error.map fun error => "  (" ++ error ++ ")").getD "" ++ "\n"

/-- The table of rows under its headings. -/
def table (rows : List ClockRow) : String :=
  columns "CLOCK" "ID" "TIME" "RESOLUTION" ++ "\n" ++ String.join (rows.map line)

/-- The stored form of a table. -/
def tableToJson (rows : List ClockRow) : Json := .array (rows.map toJson)

end ClockRow

end SoftClock
