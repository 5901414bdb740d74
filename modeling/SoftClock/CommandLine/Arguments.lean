import SoftClock.Duration.Text
import SoftClock.Time.ClockId
import SoftClock.Time.Timespec

/-!
# Command Line Arguments

The grammar of the command line: options, a command, and the options and operand of that command.

* Options have a long name, and some a letter. Letters can be run together, and a value can follow
  as its own argument, after `=`, or right after its letter.
* An option can be given once before the command and once after it; the latter wins.
* After `--` everything is an operand.
* Arguments are judged from left to right, so the first offence, request for help, or request for
  the version decides.
-/

namespace SoftClock.CommandLine

/-- An option. -/
inductive OptionName where
  | config
  | simulated
  | json
  | logLevel
  | help
  | version
  | force
  | count
  | interval
  deriving DecidableEq, Repr

namespace OptionName

/-- The long name. -/
def long : OptionName → String
  | .config => "config"
  | .simulated => "simulated"
  | .json => "json"
  | .logLevel => "log-level"
  | .help => "help"
  | .version => "version"
  | .force => "force"
  | .count => "count"
  | .interval => "interval"

/-- The letter, if there is one. -/
def letter? : OptionName → Option Char
  | .config => some 'c'
  | .simulated => some 's'
  | .logLevel => some 'l'
  | .help => some 'h'
  | .version => some 'V'
  | .count => some 'n'
  | .json | .force | .interval => none

/-- Whether an option has a value. -/
def takesValue : OptionName → Bool
  | .config | .logLevel | .count | .interval => true
  | .simulated | .json | .help | .version | .force => false

end OptionName

/-- A command. -/
inductive CommandName where
  | get
  | res
  | list
  | calibrate
  | watch
  | set
  | config
  deriving DecidableEq, Repr

namespace CommandName

/-- Every command. -/
def all : List CommandName := [.get, .res, .list, .calibrate, .watch, .set, .config]

/-- The name of a command. -/
def name : CommandName → String
  | .get => "get"
  | .res => "res"
  | .list => "list"
  | .calibrate => "calibrate"
  | .watch => "watch"
  | .set => "set"
  | .config => "config"

/-- The command with a name. -/
def ofName? (name : String) : Option CommandName := all.find? fun command => command.name == name

/-- The options that can follow a command. -/
def options (command : CommandName) : List OptionName :=
  [.config, .simulated, .json, .logLevel, .help] ++
    match command with
    | .calibrate => [.force]
    | .watch => [.count, .interval]
    | .get | .res | .list | .set | .config => []

end CommandName

/-- The operand of a command. -/
inductive Operand where
  | clock (id : ClockId)
  | time (time : Timespec)
  deriving DecidableEq, Repr

/-- The operand that a command reads from a text. -/
def CommandName.operand? (command : CommandName) (text : String) : Option Operand :=
  match command with
  | .get | .res | .watch => (ClockId.parse text).toOption.map .clock
  | .set => (Timespec.parse text).toOption.map .time
  | .list | .calibrate | .config => none

/-- What was given on one side of the command. -/
structure Given where
  config : Option String := none
  simulated : Bool := false
  json : Bool := false
  logLevel : Option String := none
  force : Bool := false
  count : Option UInt64 := none
  interval : Option Duration := none
  operand : Option Operand := none
  deriving DecidableEq, Repr

/-- Why reading the arguments ends early. -/
inductive Halt where
  /-- The arguments are not understood. -/
  | usage
  /-- Help was asked for. -/
  | help
  /-- The version was asked for. -/
  | version
  deriving DecidableEq, Repr

namespace Given

/-- A value for an option that has none yet. -/
def once {α : Type} (old : Option α) (value? : Option α) : Except Halt (Option α) :=
  match old, value? with
  | none, some value => .ok (some value)
  | _, _ => .error .usage

/-- Give an option without a value. -/
def setFlag (option : OptionName) (g : Given) : Except Halt Given :=
  match option with
  | .simulated => if g.simulated then .error .usage else .ok { g with simulated := true }
  | .json => if g.json then .error .usage else .ok { g with json := true }
  | .force => if g.force then .error .usage else .ok { g with force := true }
  | .help => .error .help
  | .version => .error .version
  | .config | .logLevel | .count | .interval => .error .usage

/-- Give an option with its value. -/
def setValue (option : OptionName) (value : String) (g : Given) : Except Halt Given :=
  match option with
  | .config =>
    (once g.config (if value.isEmpty then none else some value)).map fun config =>
      { g with config := config }
  | .logLevel => (once g.logLevel (some value)).map fun level => { g with logLevel := level }
  | .count =>
    (once g.count ((Text.readNatural 0xffffffffffffffff value.toList).toOption.map .ofNat)).map
      fun count => { g with count := count }
  | .interval =>
    (once g.interval (Duration.parse? value)).map fun interval => { g with interval := interval }
  | .simulated | .json | .force | .help | .version => .error .usage

end Given

/-! ## Options -/

/-- Whether an argument starts an option and cannot be a value. -/
def startsOption (argument : List Char) : Bool := argument.head? = some '-' && argument ≠ ['-']

/-- Give an option whose value is the next argument. -/
def readNextValue (option : OptionName) (g : Given) :
    List String → Except Halt (Given × List String)
  | [] => .error .usage
  | value :: rest =>
    if startsOption value.toList then .error .usage
    else (g.setValue option value).map fun g => (g, rest)

/-- Read an option by its long name, with a value after `=` if there is one. -/
def readLong (known : List OptionName) (argument : List Char) (rest : List String) (g : Given) :
    Except Halt (Given × List String) :=
  let name := String.ofList (argument.takeWhile (· ≠ '='))
  match known.find? fun option => option.long == name with
  | none => .error .usage
  | some option =>
    match argument.dropWhile (· ≠ '=') with
    | [] =>
      if option.takesValue then readNextValue option g rest
      else (g.setFlag option).map fun g => (g, rest)
    | _ :: value =>
      if option.takesValue then
        (g.setValue option (String.ofList value)).map fun g => (g, rest)
      else .error .usage

/-- Read options by their letters. What follows the letter of an option with a value is that value,
after `=` if there is one. -/
def readLetters (known : List OptionName) (rest : List String) :
    List Char → Given → Except Halt (Given × List String)
  | [], g => .ok (g, rest)
  | letter :: more, g =>
    match known.find? fun option => option.letter? == some letter with
    | none => .error .usage
    | some option =>
      if option.takesValue then
        match more with
        | [] => readNextValue option g rest
        | '=' :: value => (g.setValue option (String.ofList value)).map fun g => (g, rest)
        | value => (g.setValue option (String.ofList value)).map fun g => (g, rest)
      else
        match g.setFlag option with
        | .ok g => readLetters known rest more g
        | .error halt => .error halt

/-- Read an option, by its long name after two dashes, or by letters after one. -/
def readOption (known : List OptionName) (argument : List Char) (rest : List String) (g : Given) :
    Except Halt (Given × List String) :=
  match argument with
  | '-' :: '-' :: name => readLong known name rest g
  | _ :: letters => readLetters known rest letters g
  | [] => .error .usage

/-! ## Both sides of the command -/

/-- Take the operand of a command. -/
def readOperand (command : CommandName) (argument : String) (g : Given) : Except Halt Given :=
  (Given.once g.operand (command.operand? argument)).map fun operand =>
    { g with operand := operand }

/-- Read the arguments after a command. -/
def readAfter (command : CommandName) :
    Nat → Bool → List String → Given → Except Halt Given
  | _, _, [], g => .ok g
  | 0, _, _, _ => .error .usage
  | fuel + 1, true, argument :: rest, g =>
    match readOperand command argument g with
    | .ok g => readAfter command fuel true rest g
    | .error halt => .error halt
  | fuel + 1, false, argument :: rest, g =>
    if argument = "--" then readAfter command fuel true rest g
    else if startsOption argument.toList then
      match readOption command.options argument.toList rest g with
      | .ok (g, rest) => readAfter command fuel false rest g
      | .error halt => .error halt
    else
      match readOperand command argument g with
      | .ok g => readAfter command fuel false rest g
      | .error halt => .error halt

/-- The options that can stand before the command. -/
def globalOptions : List OptionName :=
  [.config, .simulated, .json, .logLevel, .help, .version]

/-- Read the arguments up to a command: what was given, the command, and the arguments after it. -/
def readBefore :
    Nat → List String → Given → Except Halt (Given × CommandName × List String)
  | _, [], _ => .error .usage
  | 0, _, _ => .error .usage
  | fuel + 1, argument :: rest, g =>
    if argument = "--" then .error .usage
    else if startsOption argument.toList then
      match readOption globalOptions argument.toList rest g with
      | .ok (g, rest) => readBefore fuel rest g
      | .error halt => .error halt
    else
      match CommandName.ofName? argument with
      | some command => .ok (g, command, rest)
      | none =>
        if argument = "help" then
          match rest with
          | [] => .error .help
          | [topic] =>
            if topic = "help" ∨ (CommandName.ofName? topic).isSome then .error .help
            else .error .usage
          | _ => .error .usage
        else .error .usage

/-! ## Requests -/

/-- What is asked of the program. -/
inductive Command where
  | get (clock : ClockId)
  | res (clock : ClockId)
  | list
  | calibrate (force : Bool)
  | watch (clock : ClockId) (count : UInt64) (interval : Duration)
  | set (time : Timespec)
  | config
  deriving DecidableEq, Repr

/-- A command with the options that hold for every command. -/
structure Request where
  config : Option String
  simulated : Bool
  json : Bool
  command : Command
  deriving DecidableEq, Repr

/-- The command that a name, options and an operand make. -/
def Command.ofGiven (name : CommandName) (g : Given) : Except Halt Command :=
  match name, g.operand with
  | .get, none => .ok (.get .monotonic)
  | .get, some (.clock id) => .ok (.get id)
  | .res, some (.clock id) => .ok (.res id)
  | .list, none => .ok .list
  | .calibrate, none => .ok (.calibrate g.force)
  | .watch, none => .ok (.watch .monotonic (g.count.getD 10000) (g.interval.getD .zero))
  | .watch, some (.clock id) => .ok (.watch id (g.count.getD 10000) (g.interval.getD .zero))
  | .set, some (.time time) => .ok (.set time)
  | .config, none => .ok .config
  | _, _ => .error .usage

/-- Read the arguments of the program. -/
def parse (arguments : List String) : Except Halt Request := do
  let (before, name, rest) ← readBefore (arguments.length + 1) arguments {}
  let after ← readAfter name (rest.length + 1) false rest {}
  let command ← Command.ofGiven name after
  return {
    config := after.config <|> before.config
    simulated := before.simulated || after.simulated
    json := before.json || after.json
    command }

end SoftClock.CommandLine
