import SoftClock.CommandLine.Arguments
import SoftClock.Machine.Simulated
import SoftClock.Report.Calibration
import SoftClock.Report.Reading
import SoftClock.Report.Watch
import SoftClock.Settings.Document

/-!
# Running a Command

What the program prints and how it exits, as a function of its arguments, of the file that the
environment names, and of the content of files.

* Arguments that are not understood exit with code 2 and how the program is called, and failures
  with code 1 after what was printed before them.
* A failure is shown with the causes behind it; several causes are numbered.
-/

namespace SoftClock.CommandLine

variable {σ : Type}

/-- What the program prints, and its exit code. -/
structure Outcome where
  code : UInt32
  stdout : String
  stderr : String
  deriving DecidableEq, Repr

namespace Outcome

/-- A success with what it prints. -/
def ofText (stdout : String) : Outcome := ⟨0, stdout, ""⟩

/-- The lines of causes, numbered from `index` on. -/
def numbered (index : Nat) : List String → String
  | [] => ""
  | cause :: causes =>
    "    " ++ Text.decimal index ++ ": " ++ cause ++ "\n" ++ numbered (index + 1) causes

/-- The text of a failure with the causes behind it. -/
def failureText (message : String) : List String → String
  | [] => "Error: " ++ message ++ "\n"
  | [cause] => "Error: " ++ message ++ "\n\nCaused by:\n    " ++ cause ++ "\n"
  | causes => "Error: " ++ message ++ "\n\nCaused by:\n" ++ numbered 0 causes

/-- A failure after something was printed. -/
def failure (stdout message : String) (causes : List String) : Outcome :=
  ⟨1, stdout, failureText message causes⟩

/-- A result in words, or in its stored form. -/
def printed (json : Bool) (text : String) (stored : Json) : String :=
  (if json then stored.pretty else text) ++ "\n"

end Outcome

/-- The name of the program and its version. -/
def versionText : String := "legacy-clockctl 0.1.0\n"

/-- How the program is called. -/
def helpText : String :=
  "Usage: legacy-clockctl [OPTIONS] <COMMAND>\n\n" ++
    "Commands: get, res, list, calibrate, watch, set, config, help\n" ++
    "Options: --config FILE, --simulated, --json, --log-level LEVEL, --help, --version\n"

/-- The environment variable that names a file with settings. -/
def settingsVariable : String := "LEGACY_CLOCK_CONFIG"

/-- A text between quotation marks. -/
def quotedText (text : String) : String := String.ofList (Text.quoted text.toList)

/-- The path of the file that a request takes its settings from, if there is one: the file given as
an option, else the one that the environment names. -/
def Request.settingsPath? (r : Request) (environment? : Option String) : Option String :=
  r.config <|> environment?

/-- The settings of a request, or the failure to load them. A file named by the environment may be
missing. -/
def Request.settings (r : Request) (environment? : Option String)
    (read : String → Option ByteArray) : Except Outcome Settings :=
  match r.config, environment? with
  | some path, _ =>
    (Settings.ofFile path (read path)).mapError fun e =>
      .failure "" ("Failed to load config from " ++ quotedText path) e.causes
  | none, none => .ok {}
  | none, some path =>
    match read path with
    | none => .ok {}
    | some content =>
      (Settings.ofFile path (some content)).mapError fun e =>
        .failure "" ("Failed to load config from " ++ settingsVariable ++ "=" ++ quotedText path)
          e.causes

/-- Watch a clock. A clock that went back is a failure after the summary. -/
def runWatch (m : Machine σ) (json : Bool) (id : ClockId) (count : UInt64) (c : Clock) (s : σ) :
    Outcome :=
  match WatchSummary.takeReadings m id count.toNat {} c s with
  | (.error e, _, _) => .failure "" ("Failed to read " ++ id.name) [e.message]
  | (.ok summary, _, _) =>
    let stdout := Outcome.printed json summary.text summary.toJson
    if summary.regressions = 0 then .ofText stdout
    else
      .failure stdout
        (id.name ++ " went backwards " ++ Text.decimal summary.regressions.toNat ++ " times") []

/-- Run a command over a clock. -/
def runCommand (m : Machine σ) (json : Bool) (command : Command) (c : Clock) (s : σ) : Outcome :=
  match command with
  | .get id =>
    match (Reading.take m id c s).1 with
    | .ok reading => .ofText (Outcome.printed json reading.text reading.toJson)
    | .error e => .failure "" ("Failed to read " ++ id.name) [e.message]
  | .res id =>
    match (c.resolution m id s).1 with
    | .ok resolution =>
      .ofText (Outcome.printed json
        (id.name ++ " " ++ Text.decimal resolution.nanos.toNat ++ "ns") resolution.toJson)
    | .error e => .failure "" ("Failed to query resolution of " ++ id.name) [e.message]
  | .list =>
    let rows := (ClockRow.takeAll m c s).1
    .ofText (if json then (ClockRow.tableToJson rows).pretty ++ "\n" else ClockRow.table rows)
  | .calibrate force =>
    match (if force then c.invalidateOffset else c).refreshOffset m s with
    | (outcome, c, s) =>
      let report := (CalibrationReport.collect m outcome c s).1
      .ofText (Outcome.printed json report.text report.toJson)
  | .watch id count _ => runWatch m json id count c s
  | .set time =>
    match Clock.setTime m .realtime time s with
    | (.error e, _) => .failure "" "Failed to set the wall clock" [e.message]
    | (.ok (), s) =>
      match (Reading.take m .realtime c s).1 with
      | .ok reading => .ofText (Outcome.printed json reading.text reading.toJson)
      | .error e => .failure "" e.message []
  | .config => .ofText c.settings.toToml

/-- The time that a request spends between readings, in nanoseconds. It passes for whoever waits for
the program, and not for the machine that is read. -/
def Request.pauseNanos (r : Request) : Nat :=
  match r.command with
  | .watch _ count interval => count.toNat * interval.nanos
  | .get _ | .res _ | .list | .calibrate _ | .set _ | .config => 0

/-- Run a request. Only simulated machines can be read here. -/
def Request.run (r : Request) (environment? : Option String) (read : String → Option ByteArray) :
    Outcome :=
  match r.settings environment? read with
  | .error outcome => outcome
  | .ok settings =>
    if r.simulated then
      match Clock.withSettings Simulated.machine settings Simulated.new with
      | (clock, s) => runCommand Simulated.machine r.json r.command clock s
    else
      .failure "" "the clocks of the host are not available, use --simulated" []

/-- Run the program with its arguments. -/
def run (arguments : List String) (environment? : Option String)
    (read : String → Option ByteArray) : Outcome :=
  match parse arguments with
  | .ok request => request.run environment? read
  | .error .usage => ⟨2, "", helpText⟩
  | .error .help => .ofText helpText
  | .error .version => .ofText versionText

end SoftClock.CommandLine
