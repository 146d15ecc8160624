import Triage.CommandLine.Arguments
import Triage.Scan
import Triage.Sink.JsonLines

/-!
The program: `scan` runs rules over a file tree and writes rows as JSON lines, `check` says what is
wrong with rules.
-/

namespace Triage.CommandLine

/-- What a run leaves behind: the code of its end, the lines it says, and the content of the file it
wrote with the path it was given. -/
structure Outcome where
  code : Nat
  output : List String := []
  errors : List String := []
  written : Option (String × String) := none
deriving DecidableEq, Repr

/-- A failure: what was being done, and why it failed from the nearest reason to the farthest. -/
def failureLines (doing : String) (reasons : List String) : List String :=
  let lines :=
    match reasons with
    | [reason] => ["    " ++ reason]
    | reasons => reasons.zipIdx.map fun (reason, i) => "    " ++ toString i ++ ": " ++ reason
  ["Error: " ++ doing, "", "Caused by:"] ++ lines

structure Failure where
  doing : String
  reasons : List String
deriving DecidableEq, Repr

def Failure.ofScan (doing : String) (e : ScanError) : Failure := ⟨doing, e.message :: e.causes⟩

def Failure.ofConfig (doing : String) (e : ConfigError) : Failure := ⟨doing, e.message :: e.causes⟩

def readConfig (tree : FileTree) (path : String) : Except ConfigError ScanConfig :=
  match tree.read path with
  | .error f => .error (.unreadable path f.message)
  | .ok bytes =>
    match Utf8.decode? bytes with
    | none => .error (.unreadable path "stream did not contain valid UTF-8")
    | some text => ScanConfig.parse (String.ofList text)

def configFor (tree : FileTree) (threads : Option Nat) (path : Option String) :
    Except Failure ScanConfig := do
  let config ←
    match path with
    | none => pure {}
    | some path => (readConfig tree path).mapError (.ofConfig ("loading " ++ path))
  return { config with workers := threads <|> config.workers }

def summary (s : ScanStats) : String :=
  "Scanned " ++ toString s.entries ++ " entries: " ++ toString s.files ++ " files, " ++
    toString s.failed ++ " failed, " ++ toString s.hits ++ " hits, " ++ toString s.ruleMatches ++
    " rule matches"

/-- All text that went into a sink, with what it still held when it was closed. -/
def closedText (s : JsonLines) : String := s.writer.received ++ s.held

def scan (machine : Nat) (tree : FileTree) (rules input output : String) (threads : Option Nat)
    (config : Option String) : Outcome :=
  let failed (said : List String) (f : Failure) (written : Option (String × String)) : Outcome :=
    { code := 1, errors := said ++ failureLines f.doing f.reasons, written }
  match configFor tree threads config with
  | .error f => failed [] f none
  | .ok config =>
    match ScanPlan.prepare { rulePaths := [rules], config } tree with
    | .error e => failed [] (.ofScan "loading rules" e) none
    | .ok scanner =>
      let said := scanner.ruleErrors.map (·.message)
      match tree.create output with
      | .error f =>
        let e := SinkError.io f.message
        failed said ⟨"creating " ++ output, e.message :: e.causes⟩ none
      | .ok (_, tree) =>
        match scanner.run machine tree input ({} : JsonLines) with
        | (.error e, sink) =>
          failed said (.ofScan ("scanning " ++ input) e) (some (output, closedText sink))
        | (.ok stats, sink) =>
          { code := 0, errors := said ++ [summary stats], written := some (output, closedText sink) }

def check (tree : FileTree) (rules : String) : Outcome :=
  match RuleSet.addPath {} tree rules with
  | (.error e, _) =>
    let f := Failure.ofScan ("reading " ++ rules) e
    { code := 1, errors := failureLines f.doing f.reasons }
  | (.ok _, s) =>
    let counts := toString s.rules.length ++ " rules, " ++ toString s.errors.length ++
      " errors in " ++ toString s.sources ++ " sources"
    { code := if s.errors.isEmpty then 0 else 1
      errors := s.errors.map (·.message) ++ [counts] }

def helpLines : List String :=
  ["Forensic triage with hash, metadata and pattern rules",
    "",
    "Usage: triage [--debug] scan --rules PATH --input PATH --output PATH [--threads N] [--config PATH]",
    "       triage [--debug] check --rules PATH",
    "       triage help | --help | --version"]

/-- Runs a command on a file tree. `machine` is the number of its processors. -/
def runCommand (machine : Nat) (tree : FileTree) : Command → Outcome
  | .scan rules input output threads config => scan machine tree rules input output threads config
  | .check rules => check tree rules
  | .help => { code := 0, output := helpLines }
  | .version => { code := 0, output := ["triage 0.1.0"] }

def run (machine : Nat) (tree : FileTree) (arguments : List String) : Outcome :=
  match parse arguments with
  | .error e => { code := 2, errors := ["error: " ++ e.message, ""] ++ helpLines.drop 2 }
  | .ok command => runCommand machine tree command

end Triage.CommandLine
