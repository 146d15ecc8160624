import Triage.Rule.Expression

/-!
The arguments of the command line. Arguments are read from the left, so that the first that is wrong
counts, and a call for help ends the reading.
-/

namespace Triage.CommandLine

inductive Command
  | scan (rules input output : String) (threads : Option Nat) (config : Option String)
  | check (rules : String)
  | help
  | version
deriving DecidableEq, Repr

inductive Switch
  | debug | help | version | rules | input | output | threads | config
deriving DecidableEq, Repr

namespace Switch

def name : Switch → String
  | debug => "debug"
  | help => "help"
  | version => "version"
  | rules => "rules"
  | input => "input"
  | output => "output"
  | threads => "threads"
  | config => "config"

/-- The letter that stands for the switch. -/
def letter : Switch → Char
  | debug => 'd'
  | help => 'h'
  | version => 'V'
  | rules => 'r'
  | input => 'i'
  | output => 'o'
  | threads => 't'
  | config => 'c'

def takesValue : Switch → Bool
  | debug | help | version => false
  | rules | input | output | threads | config => true

end Switch

inductive UsageError
  | noCommand
  | unexpected (argument : String)
  | repeated (s : Switch)
  | valueMissing (s : Switch)
  | valueUnexpected (s : Switch)
  | badNumber (value : String)
  | switchMissing (s : Switch)
deriving DecidableEq, Repr

def UsageError.message : UsageError → String
  | noCommand => "expected a command: scan, check or help"
  | unexpected argument => "unexpected argument " ++ argument
  | repeated s => "--" ++ s.name ++ " is given more than once"
  | valueMissing s => "--" ++ s.name ++ " needs a value"
  | valueUnexpected s => "--" ++ s.name ++ " takes no value"
  | badNumber value => "not a number: " ++ value
  | switchMissing s => "--" ++ s.name ++ " is required"

/-- A number of threads, with or without a plus sign. -/
def threadCount? (value : String) : Option Nat :=
  let digits := if value.startsWith "+" then (value.drop 1).toString else value
  if digits.isEmpty || !digits.toList.all Char.isDigit then none else number? digits

/-- Whether an argument names switches. A lone dash does not. -/
def isSwitch (argument : String) : Bool := argument.startsWith "-" && argument ≠ "-"

/-- Switches with their values; a switch that takes none has an empty one. -/
abbrev Settings := List (Switch × String)

inductive Reading
  | done (settings : Settings) (rest : List String)
  | help
  | version
deriving DecidableEq, Repr

/-- The value of a switch: the one attached to it, or else the next argument. -/
def valueOf (s : Switch) (attached : Option String) (rest : List String) :
    Except UsageError (String × List String) :=
  match attached, rest with
  | some value, rest => if value.isEmpty then .error (.valueMissing s) else .ok (value, rest)
  | none, value :: rest =>
    if value.isEmpty || isSwitch value then .error (.valueMissing s) else .ok (value, rest)
  | none, [] => .error (.valueMissing s)

def addSetting (settings : Settings) (s : Switch) (value : String) : Except UsageError Settings :=
  if (settings.lookup s).isSome then .error (.repeated s)
  else if s = .threads ∧ (threadCount? value).isNone then .error (.badNumber value)
  else .ok ((s, value) :: settings)

/-- Reads the letters of an argument. The first that takes a value takes the letters behind it. -/
def readLetters (allowed : List Switch) (settings : Settings) (rest : List String) :
    List Char → Except UsageError Reading
  | [] => .ok (.done settings rest)
  | c :: more =>
    match allowed.find? (·.letter == c) with
    | none => .error (.unexpected ("-" ++ c.toString))
    | some .help => .ok .help
    | some .version => .ok .version
    | some s => do
      if s.takesValue then
        let attached :=
          match more with
          | [] => none
          | '=' :: more => some (String.ofList more)
          | more => some (String.ofList more)
        let (value, rest) ← valueOf s attached rest
        return .done (← addSetting settings s value) rest
      else readLetters allowed (← addSetting settings s "") rest more

/-- Reads a switch that is written out, perhaps with a value behind an equal sign. -/
def readName (allowed : List Switch) (settings : Settings) (rest : List String) (text : List Char) :
    Except UsageError Reading :=
  let name := String.ofList (text.takeWhile (· != '='))
  let attached := if text.contains '=' then some (String.ofList ((text.dropWhile (· != '=')).drop 1))
    else none
  match allowed.find? (·.name == name) with
  | none => .error (.unexpected ("--" ++ name))
  | some s => do
    if s.takesValue then
      let (value, rest) ← valueOf s attached rest
      return .done (← addSetting settings s value) rest
    else
      if attached.isSome then throw (.valueUnexpected s)
      match s with
      | .help => return .help
      | .version => return .version
      | s => return .done (← addSetting settings s "") rest

/-- Reads switches up to the first argument that is none. -/
def readSwitches (allowed : List Switch) : Nat → Settings → List String → Except UsageError Reading
  | 0, settings, rest => .ok (.done settings rest)
  | _, settings, [] => .ok (.done settings [])
  | fuel + 1, settings, argument :: rest => do
    let reading ←
      match argument.toList with
      | ['-', '-'] =>
        match rest with
        | [] => return .done settings []
        | argument :: _ => throw (.unexpected argument)
      | '-' :: '-' :: text => readName allowed settings rest text
      | '-' :: c :: more => readLetters allowed settings rest (c :: more)
      | _ => return .done settings (argument :: rest)
    match reading with
    | .done settings rest => readSwitches allowed fuel settings rest
    | reading => return reading

def readAll (allowed : List Switch) (arguments : List String) : Except UsageError Reading :=
  readSwitches allowed arguments.length [] arguments

/-- The settings of a command, behind which no other argument may stand. -/
def commandFrom (allowed : List Switch) (make : Settings → Except UsageError Command)
    (arguments : List String) : Except UsageError Command := do
  match ← readAll allowed arguments with
  | .help => return .help
  | .version => return .version
  | .done _ (argument :: _) => throw (.unexpected argument)
  | .done settings [] => make settings

def required (settings : Settings) (s : Switch) : Except UsageError String :=
  match settings.lookup s with
  | some value => .ok value
  | none => .error (.switchMissing s)

def scanFrom (settings : Settings) : Except UsageError Command := do
  let rules ← required settings .rules
  let input ← required settings .input
  let output ← required settings .output
  return .scan rules input output ((settings.lookup .threads).bind threadCount?)
    (settings.lookup .config)

def checkFrom (settings : Settings) : Except UsageError Command := do
  return .check (← required settings .rules)

/-- Help is about the whole or about one command. -/
def helpFrom : List String → Except UsageError Command
  | [] => .ok .help
  | [command] =>
    if ["scan", "check", "help"].contains command then .ok .help else .error (.unexpected command)
  | _ :: argument :: _ => .error (.unexpected argument)

def parse (arguments : List String) : Except UsageError Command := do
  match ← readAll [.debug, .help, .version] arguments with
  | .help => return .help
  | .version => return .version
  | .done _ [] => throw .noCommand
  | .done _ ("scan" :: rest) =>
    commandFrom [.debug, .help, .rules, .input, .output, .threads, .config] scanFrom rest
  | .done _ ("check" :: rest) => commandFrom [.debug, .help, .rules] checkFrom rest
  | .done _ ("help" :: rest) => helpFrom rest
  | .done _ (argument :: _) => throw (.unexpected argument)

end Triage.CommandLine
