import LedgerGateway.Release

/-! The command line: three commands, and options whose values may also come from the environment. A
value is looked at when the next option or the end of the line is reached. -/

namespace LedgerGateway.CommandLine

inductive LogFormat where
  | pretty
  | json
  deriving DecidableEq

def LogFormat.ofName? : String → Option LogFormat
  | "pretty" => some pretty
  | "json" => some json
  | _ => none

inductive Command where
  | run (config : Option String) (port : Option UInt16) (logFormat : LogFormat)
  | checkConfig (config : String)
  | version
  deriving DecidableEq

/-- Why a line is no command to carry out. -/
inductive Stop where
  | help
  | helpOnMissing
  | version (program : String)
  | invalidValue
  | invalidPort
  | unknownArgument
  | unknownCommand
  | repeated
  | missingOption
  | unwantedValue
  deriving DecidableEq

namespace Stop

/-- Help and versions that were asked for are no failures. -/
def exitCode : Stop → Nat
  | help | version _ => 0
  | _ => 2

/-- What is printed on the standard output. -/
def output : Stop → String
  | version program => program ++ " " ++ Release.version ++ "\n"
  | _ => ""

end Stop

inductive Setting where
  | config
  | port
  | logFormat
  deriving DecidableEq

namespace Setting

def all : List Setting := [config, port, logFormat]

def name : Setting → String
  | config => "config"
  | port => "port"
  | logFormat => "log-format"

def letter? : Setting → Option Char
  | config => some 'c'
  | port | logFormat => none

/-- The variable that gives the value when the line does not. -/
def environmentName : Setting → String
  | config => "ROSETTA_CONFIG"
  | port => "ROSETTA_PORT"
  | logFormat => "ROSETTA_LOG_FORMAT"

end Setting

/-- The settings that a line has given. -/
structure Settings where
  config : Option String := none
  port : Option UInt16 := none
  logFormat : Option LogFormat := none
  deriving DecidableEq

/-- Reads an integer that fits into 16 bits; a sign may stand before it. -/
def readPort? (s : String) : Option UInt16 :=
  let (negative, digits) := match s.toList with
    | '-' :: cs => (true, cs)
    | '+' :: cs => (false, cs)
    | cs => (false, cs)
  if digits ≠ [] ∧ digits.all Char.isDigit then
    let n := digits.foldl (fun n c => n * 10 + (c.toNat - 48)) 0
    if n < UInt16.size ∧ (!negative ∨ n = 0) then some (.ofNat n) else none
  else none

namespace Settings

def has (s : Settings) : Setting → Bool
  | .config => s.config.isSome
  | .port => s.port.isSome
  | .logFormat => s.logFormat.isSome

/-- Sets what has not been set before. -/
def set (s : Settings) (setting : Setting) (value : String) : Except Stop Settings :=
  if s.has setting then .error .repeated
  else
    match setting with
    | .config => if value = "" then .error .invalidValue else .ok { s with config := some value }
    | .port =>
      match readPort? value with
      | some port => .ok { s with port := some port }
      | none => .error .invalidPort
    | .logFormat =>
      match LogFormat.ofName? value with
      | some format => .ok { s with logFormat := some format }
      | none => .error .invalidValue

/-- Sets from the environment what the line has not set. -/
def complete (s : Settings) (environment : String → Option String) :
    List Setting → Except Stop Settings
  | [] => .ok s
  | setting :: rest =>
    if s.has setting then s.complete environment rest
    else
      match environment setting.environmentName with
      | some value => do (← s.set setting value).complete environment rest
      | none => s.complete environment rest

end Settings

/-- What an argument looks like. -/
inductive Shape where
  | separator
  | long (name : String) (value : Option String)
  | short (letter : Char) (rest : List Char)
  | plain

/-- A name is cut at the first equals sign. A single dash is a plain argument. -/
def Shape.of (arg : String) : Shape :=
  match arg.toList with
  | ['-', '-'] => .separator
  | '-' :: '-' :: cs =>
    match cs.dropWhile (· != '=') with
    | _ :: value => .long (String.ofList (cs.takeWhile (· != '='))) (some (String.ofList value))
    | [] => .long (String.ofList cs) none
  | '-' :: c :: cs => .short c cs
  | _ => .plain

/-- The settings so far, and the last one named, with its value if that has been met. -/
structure Scan where
  settings : Settings := {}
  pending : Option (Setting × Option String) := none

namespace Scan

/-- Looks at the value of the last setting. -/
def settle (s : Scan) : Except Stop Settings :=
  match s.pending with
  | none => .ok s.settings
  | some (_, none) => .error .invalidValue
  | some (setting, some value) => s.settings.set setting value

/-- Ends the line with a stop, once the last setting is found to be good. -/
def stop {α : Type} (s : Scan) (reason : Stop) : Except Stop α := do
  let _ ← s.settle
  throw reason

/-- Names a setting, with its value if that is part of the same argument. -/
def option (s : Scan) (setting : Setting) (value : Option String) : Except Stop Scan := do
  let settings ← s.settle
  match value with
  | some v => return ⟨← settings.set setting v, none⟩
  | none => return ⟨settings, some (setting, none)⟩

/-- Takes one argument of a command that knows some settings. -/
def take (known : List Setting) (program : String) (s : Scan) (arg : String) : Except Stop Scan :=
  match Shape.of arg with
  | .long "help" none => s.stop .help
  | .long "version" none => s.stop (.version program)
  | .long "help" (some _) | .long "version" (some _) => .error .unwantedValue
  | .long name value =>
    match known.find? fun k => k.name == name with
    | some setting => s.option setting value
    | none => .error .unknownArgument
  | .short 'h' _ => s.stop .help
  | .short 'V' _ => s.stop (.version program)
  | .short c rest =>
    match known.find? fun k => k.letter? == some c with
    | some setting =>
      s.option setting (match rest with
        | [] => none
        | '=' :: value => some (String.ofList value)
        | value => some (String.ofList value))
    | none => .error .unknownArgument
  | .plain | .separator =>
    match s.pending with
    | some (setting, none) => .ok { s with pending := some (setting, some arg) }
    | _ => .error .unknownArgument

/-- Takes all arguments of a command. Nothing may follow a separator. -/
def all (known : List Setting) (program : String) : Scan → List String → Except Stop Settings
  | s, [] => s.settle
  | s, arg :: rest =>
    match Shape.of arg with
    | .separator => if rest.isEmpty then s.settle else .error .unknownArgument
    | _ => do all known program (← s.take known program arg) rest

end Scan

/-- The names of the commands. -/
def commands : List String := ["run", "check-config", "version", "help"]

/-- Reads the line after the name of a command. -/
def readCommand (name : String) (args : List String) (environment : String → Option String) :
    Except Stop Command := do
  let program := Release.name ++ "-" ++ name
  let scan := fun known => do
    let settings ← Scan.all known program {} args
    settings.complete environment known
  match name with
  | "run" =>
    let s ← scan Setting.all
    return .run s.config s.port (s.logFormat.getD .pretty)
  | "check-config" =>
    match (← scan [.config]).config with
    | some config => return .checkConfig config
    | none => throw .missingOption
  | _ =>
    let _ ← scan []
    return .version

/-- The topic of a call for help is a command, which has no further topics. -/
def readHelp : List String → Stop
  | [] => .help
  | topic :: rest => if commands.contains topic ∧ rest.isEmpty then .help else .unknownCommand

/-- Reads a whole line without the name of the program. -/
def read (args : List String) (environment : String → Option String) : Except Stop Command :=
  match args with
  | [] => .error .helpOnMissing
  | arg :: rest =>
    if arg = "help" then .error (readHelp rest)
    else if commands.contains arg then readCommand arg rest environment
    else
      match Shape.of arg with
      | .separator =>
        match rest with
        | [] => .error .helpOnMissing
        | first :: _ =>
          .error (if commands.contains first then .unknownArgument else .unknownCommand)
      | .plain => .error .unknownCommand
      | _ => do
        let _ ← Scan.take [] Release.name {} arg
        throw .unknownArgument

end LedgerGateway.CommandLine
