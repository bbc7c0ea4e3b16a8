import TickCapture.Config.Environment
import TickCapture.Store.Path
import TickCapture.Console.Progress
import TickCapture.Decimal.Digits

/-! # Arguments of the command line

An option has a long name and perhaps a letter. Some take a value: after an equals sign, right after the
letter, or as the next argument, which then must not look like an option. No option may be given twice.
Arguments are taken in order, and the first thing that is wrong, or a wish for help or for the version,
settles the matter.

The path of the settings file can also come from the environment. -/

namespace TickCapture

inductive CommandOption where
  | device
  | forceFormat
  | count
  | config
  | outputDir
  | saveAll
  | noRealtime
  | dropWhenFull
  | ui
  | help
  | version
  deriving DecidableEq, Repr

namespace CommandOption

def all : List CommandOption :=
  [device, forceFormat, count, config, outputDir, saveAll, noRealtime, dropWhenFull, ui, help, version]

def name : CommandOption → String
  | device => "device"
  | forceFormat => "force-format"
  | count => "count"
  | config => "config"
  | outputDir => "output-dir"
  | saveAll => "save-all"
  | noRealtime => "no-realtime"
  | dropWhenFull => "drop-when-full"
  | ui => "ui"
  | help => "help"
  | version => "version"

def letter? : CommandOption → Option Char
  | device => some 'd'
  | count => some 'c'
  | help => some 'h'
  | version => some 'V'
  | _ => none

/-- What the value of an option is called, if it takes one. -/
def value? : CommandOption → Option String
  | device => some "DEVICE"
  | count => some "COUNT"
  | config => some "CONFIG"
  | outputDir => some "OUTPUT_DIR"
  | ui => some "MODE"
  | _ => none

def summary : CommandOption → String
  | device => "Camera device, e.g. \"/dev/video0\", or stub://<name> for the synthetic camera"
  | forceFormat => "Negotiate 640x480 YUYV instead of keeping the driver's format"
  | count => "Number of frames to persist"
  | config => "Configuration file (JSON, or TOML with a .toml extension)"
  | outputDir => "Directory for persisted frames"
  | saveAll => "Persist every frame, not only ticks"
  | noRealtime => "Run stage threads in the default time-shared class"
  | dropWhenFull =>
    "Return frames to the driver instead of blocking when detection falls behind"
  | ui => "UI mode for stderr progress"
  | help => "Print help"
  | version => "Print version"

def ofName? (s : String) : Option CommandOption := all.find? (·.name = s)

def ofLetter? (c : Char) : Option CommandOption := all.find? (·.letter? = some c)

end CommandOption

inductive UsageError where
  | unexpected (argument : String)
  | repeated (option : CommandOption)
  | missingValue (option : CommandOption)
  | unwantedValue (option : CommandOption) (value : String)
  | invalidValue (option : CommandOption) (value : String)
  deriving DecidableEq, Repr

def UsageError.message : UsageError → String
  | unexpected argument => s!"unexpected argument '{argument}' found"
  | repeated option => s!"the argument '--{option.name}' cannot be used multiple times"
  | missingValue option => s!"a value is required for '--{option.name}' but none was supplied"
  | unwantedValue option value => s!"unexpected value '{value}' for '--{option.name}' found"
  | invalidValue option value => s!"invalid value '{value}' for '--{option.name}'"

structure Arguments where
  device : Option String := none
  forceFormat : Bool := false
  count : Option UInt64 := none
  config : Option FileName := none
  outputDir : Option PathText := none
  saveAll : Bool := false
  noRealtime : Bool := false
  dropWhenFull : Bool := false
  ui : UiMode := .auto
  deriving DecidableEq, Repr

inductive Invocation where
  | run (arguments : Arguments)
  | help
  | version
  deriving DecidableEq, Repr

namespace Arguments

/-- A path, which must not be empty. -/
def pathValue (option : CommandOption) (value : String) : Except UsageError PathText :=
  if value = "" then .error (.invalidValue option value) else .ok value.toList

def withValue (a : Arguments) (option : CommandOption) (value : String) :
    Except UsageError Arguments :=
  let invalid {α : Type} : Except UsageError α := .error (.invalidValue option value)
  match option with
  | .device => .ok { a with device := some value }
  | .count =>
    match (unsigned? 64 value.toList).filter (0 < ·) with
    | some n => .ok { a with count := some n.toUInt64 }
    | none => invalid
  | .config =>
    (pathValue option value).map fun _ => { a with config := some (Bytes.ofText value) }
  | .outputDir => (pathValue option value).map fun path => { a with outputDir := some path }
  | .ui =>
    match UiMode.ofWord? false value with
    | some mode => .ok { a with ui := mode }
    | none => invalid
  | _ => .error (.unwantedValue option value)

def withFlag (a : Arguments) : CommandOption → Arguments
  | .forceFormat => { a with forceFormat := true }
  | .saveAll => { a with saveAll := true }
  | .noRealtime => { a with noRealtime := true }
  | .dropWhenFull => { a with dropWhenFull := true }
  | _ => a

inductive Shape where
  /-- Two dashes: what follows is no option. -/
  | divider
  | long (name : String) (value : Option String)
  /-- A letter after a dash, with the text after it. -/
  | short (letter : Char) (value : Option String)
  | plain
  deriving DecidableEq, Repr

def shapeOf (argument : String) : Shape :=
  match argument.toList with
  | ['-', '-'] => .divider
  | '-' :: '-' :: cs =>
    let name := String.ofList (cs.takeWhile (· ≠ '='))
    match cs.dropWhile (· ≠ '=') with
    | [] => .long name none
    | _ :: value => .long name (some (String.ofList value))
  | '-' :: c :: cs =>
    .short c <| match cs with
      | [] => none
      | '=' :: value => some (String.ofList value)
      | value => some (String.ofList value)
  | _ => .plain

/-- The option that an argument names, and the value in it. What follows the letter of an option
without a value is not looked at. -/
def optionOf (argument : String) : Except UsageError (CommandOption × Option String) :=
  let found := match shapeOf argument with
    | .long name value => (CommandOption.ofName? name).map (·, value)
    | .short letter value => (CommandOption.ofLetter? letter).map fun option =>
      (option, if option.value?.isSome then value else none)
    | .divider | .plain => none
  match found with
  | some found => .ok found
  | none => .error (.unexpected argument)

/-- The arguments with an option that was not given before. -/
def add (given : List CommandOption) (a : Arguments) (option : CommandOption)
    (value : Option String) : Except UsageError Arguments :=
  if option ∈ given then .error (.repeated option)
  else
    match value with
    | some value => a.withValue option value
    | none => .ok (a.withFlag option)

/-- Takes the arguments in order; `given` are the options that were given before. -/
def scan (given : List CommandOption) (a : Arguments) : List String → Except UsageError Invocation
  | [] => .ok (.run a)
  | argument :: rest =>
    if shapeOf argument = .divider then
      match rest with
      | [] => .ok (.run a)
      | next :: _ => .error (.unexpected next)
    else
      match optionOf argument with
      | .error e => .error e
      | .ok (.help, none) => .ok .help
      | .ok (.version, none) => .ok .version
      | .ok (option, some value) =>
        match add given a option (some value) with
        | .error e => .error e
        | .ok a => scan (option :: given) a rest
      | .ok (option, none) =>
        if option.value?.isNone then
          match add given a option none with
          | .error e => .error e
          | .ok a => scan (option :: given) a rest
        else
          match rest with
          | [] => .error (.missingValue option)
          | value :: rest =>
            if shapeOf value ≠ .plain then .error (.missingValue option)
            else
              match add given a option (some value) with
              | .error e => .error e
              | .ok a => scan (option :: given) a rest

/-- The arguments with the path of the settings file from the environment, if need be. -/
def withEnvironment (a : Arguments) (e : Environment) : Except UsageError Arguments :=
  match a.config, e.bytes? Variable.config with
  | none, some name =>
    if name = #[] then .error (.invalidValue .config "") else .ok { a with config := some name }
  | _, _ => .ok a

end Arguments

/-- How arguments are taken, with the environment at hand. -/
abbrev ArgumentParser := Environment → List String → Except UsageError Invocation

/-- The parser that programs are run with. -/
def Invocation.of (e : Environment) (arguments : List String) : Except UsageError Invocation := do
  match ← Arguments.scan [] {} arguments with
  | .run a => return .run (← a.withEnvironment e)
  | other => return other

end TickCapture
