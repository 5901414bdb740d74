import SoftClock.Text.Integer

/-!
# Clock Errors

Why a clock operation is refused or abandoned, the sentence that reports it, and the error number
that C-shaped callers see.
-/

namespace SoftClock

/-- The cause of a failed clock operation. -/
inductive ClockError where
  /-- An argument is outside what the operation accepts. -/
  | invalidArgument (reason : String)
  /-- No clock has this identifier. -/
  | invalidClock (raw : Int32)
  /-- A machine primitive failed with this error number. -/
  | os (code : Int32)
  /-- The tick scale could not be obtained or is unusable. -/
  | calibration (reason : String)
  /-- A bounded sampling loop ran out before it had a usable sample. -/
  | samplingExhausted (attempts : UInt32)
  /-- A configuration value is out of range, or came too late. -/
  | config (reason : String)
  deriving DecidableEq, Repr

namespace ClockError

/-- Error number of a rejected argument. -/
def einval : Int32 := 22

/-- Error number of an operation that may succeed when tried again. -/
def eagain : Int32 := 11

/-- Error number of a failed read or write. -/
def eio : Int32 := 5

/-- Error number of an operation that is not permitted. -/
def eperm : Int32 := 1

/-- The sentence that reports an error. -/
def message : ClockError → String
  | .invalidArgument reason => "invalid argument: " ++ reason
  | .invalidClock raw => "invalid clock identifier " ++ Text.decimal raw.toInt
  | .os code => "os error " ++ Text.decimal code.toInt
  | .calibration reason => "timebase calibration failed: " ++ reason
  | .samplingExhausted attempts =>
    "sampling exhausted after " ++ Text.decimal attempts.toNat ++ " attempts"
  | .config reason => "configuration error: " ++ reason

/-- The error number that C-shaped entry points report. -/
def errno : ClockError → Int32
  | .invalidArgument _ | .invalidClock _ | .config _ => einval
  | .os code => code
  | .calibration _ => eio
  | .samplingExhausted _ => eagain

/-- Whether an attempt ended because a bounded loop ran out. -/
def isExhaustion : ClockError → Bool
  | .samplingExhausted _ => true
  | _ => false

/-- The error of a machine primitive: its error number where it has one, else a failed transfer. -/
def ofOsCode? (code? : Option Int32) : ClockError := .os (code?.getD eio)

end ClockError

end SoftClock
