import SoftClock.Duration.Text
import SoftClock.Settings
import SoftClock.Toml.Document

/-!
# Settings as a Document

Settings are kept in TOML files, one line for each value.

* `Settings.toToml` writes every value in order; an interval that is not set is left out.
* `Settings.ofToml` reads a document, where every value may be missing and unknown keys are ignored,
  and then checks the ranges.
* `Settings.ofFile` does the same for the content of a file.
-/

namespace SoftClock

/-! ## Writing -/

/-- A line with a key and a value. -/
def tomlLine (key value : String) : String := key ++ " = " ++ value ++ "\n"

/-- A text between quotation marks, for texts without marks, backslashes and control characters. -/
def tomlText (text : String) : String := "\"" ++ text ++ "\""

/-- A truth value. -/
def tomlBool (value : Bool) : String := if value then "true" else "false"

/-- The document of settings. -/
def Settings.toToml (settings : Settings) : String :=
  tomlLine "samples_per_attempt" (Text.decimal settings.samplesPerAttempt.toNat) ++
    tomlLine "max_boot_restarts" (Text.decimal settings.maxBootRestarts.toNat) ++
    tomlLine "max_wall_polls" (Text.decimal settings.maxWallPolls.toNat) ++
    tomlLine "min_offset_advance" (tomlText settings.minOffsetAdvance.format) ++
    tomlLine "max_drift_ppm" (Text.decimal settings.maxDriftPpm.toNat) ++
    tomlLine "continuous_mode" (tomlText settings.continuousMode.key) ++
    tomlLine "eager_init" (tomlBool settings.eagerInit) ++
    match settings.recalibrateInterval with
    | none => ""
    | some interval => tomlLine "recalibrate_interval" (tomlText interval.format)

/-! ## Reading -/

namespace Toml

/-- An unsigned half word. -/
def uint32? : Toml → Option UInt32
  | .integer value => if 0 ≤ value ∧ value ≤ 0xffffffff then some (.ofNat value.toNat) else none
  | _ => none

/-- A truth value. -/
def bool? : Toml → Option Bool
  | .boolean value => some value
  | _ => none

/-- A duration in its text form. -/
def duration? : Toml → Option Duration
  | .string text => Duration.parse? text
  | _ => none

/-- A mode: its name, or a table whose only entry has the name as its key over an empty
collection. -/
def mode? : Toml → Option ContinuousMode
  | .string text => ContinuousMode.ofKey? text
  | .table _ [(key, value)] =>
    if value.isEmptyCollection then ContinuousMode.ofKey? key else none
  | _ => none

end Toml

/-- The value of a key, or a default where the key is missing. -/
def TomlEntries.valueOr? {α : Type} (entries : TomlEntries) (key : String) (default : α)
    (decode : Toml → Option α) : Option α :=
  match entries.lookup key with
  | none => some default
  | some value => decode value

/-- The settings of a document's entries, whose ranges are not checked. -/
def Settings.ofEntries? (entries : TomlEntries) : Option Settings := do
  let default : Settings := {}
  return {
    samplesPerAttempt :=
      ← entries.valueOr? "samples_per_attempt" default.samplesPerAttempt Toml.uint32?
    maxBootRestarts := ← entries.valueOr? "max_boot_restarts" default.maxBootRestarts Toml.uint32?
    maxWallPolls := ← entries.valueOr? "max_wall_polls" default.maxWallPolls Toml.uint32?
    minOffsetAdvance :=
      ← entries.valueOr? "min_offset_advance" default.minOffsetAdvance Toml.duration?
    maxDriftPpm := ← entries.valueOr? "max_drift_ppm" default.maxDriftPpm Toml.uint32?
    continuousMode := ← entries.valueOr? "continuous_mode" default.continuousMode Toml.mode?
    eagerInit := ← entries.valueOr? "eager_init" default.eagerInit Toml.bool?
    recalibrateInterval :=
      ← entries.valueOr? "recalibrate_interval" default.recalibrateInterval
        fun value => (Toml.duration? value).map some }

/-- Why a file has no text. -/
inductive FileFault where
  /-- There is no such file. -/
  | missing
  /-- The content is not valid UTF-8. -/
  | notText
  deriving DecidableEq, Repr

/-- The wording of a file that has no text. -/
def FileFault.message : FileFault → String
  | .missing => "No such file or directory (os error 2)"
  | .notText => "stream did not contain valid UTF-8"

/-- Why settings were not accepted. -/
inductive SettingsError where
  /-- The file has no text. -/
  | file (path : String) (fault : FileFault)
  /-- The text is no document, or a value has the wrong type. -/
  | syntaxFault
  /-- A value is out of range. -/
  | range (fault : SettingsFault)
  deriving DecidableEq, Repr

/-- The wording of a text that is no document of settings. -/
def SettingsError.syntaxText : String := "not a document of settings"

/-- The wording of a refusal. -/
def SettingsError.message : SettingsError → String
  | .file path fault => "failed to read config file " ++ path ++ ": " ++ fault.message
  | .syntaxFault => "failed to parse TOML: " ++ SettingsError.syntaxText
  | .range fault => "invalid configuration: " ++ fault.message

/-- A refusal with the causes behind it, the outermost first. -/
def SettingsError.causes (error : SettingsError) : List String :=
  match error with
  | .file _ fault => [error.message, fault.message]
  | .syntaxFault => [error.message, SettingsError.syntaxText]
  | .range _ => [error.message]

/-- A refusal as the error of a clock operation. -/
def SettingsError.toClockError (error : SettingsError) : ClockError := .config error.message

/-- Check the ranges of settings. -/
def Settings.check (settings : Settings) : Except SettingsError Settings :=
  match settings.validate with
  | .ok () => .ok settings
  | .error fault => .error (.range fault)

/-- The settings of a document. Its form is checked before the ranges. -/
def Settings.ofToml (text : String) : Except SettingsError Settings :=
  match (Toml.parse? text).bind Settings.ofEntries? with
  | some settings => settings.check
  | none => .error .syntaxFault

/-- The settings in a file, where `none` stands for a file that does not exist. -/
def Settings.ofFile (path : String) (content? : Option ByteArray) : Except SettingsError Settings :=
  match content? with
  | none => .error (.file path .missing)
  | some content =>
    match String.fromUTF8? content with
    | none => .error (.file path .notText)
    | some text => Settings.ofToml text

/-- The settings in a file named by the environment; whatever is wrong with it, the defaults take
its place. -/
def Settings.ofEnvironment (path? : Option String) (read : String → Option ByteArray) : Settings :=
  match path? with
  | none => {}
  | some path =>
    match Settings.ofFile path (read path) with
    | .ok settings => settings
    | .error _ => {}

end SoftClock
