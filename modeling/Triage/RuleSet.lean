import Triage.Error
import Triage.Walk

/-!
Collecting rules from texts, files and directories. What is wrong with a source is noted and does not
keep the others from being read.
-/

namespace Triage

structure RuleSet where
  rules : List Rule := []
  errors : List RuleError := []
  sources : Nat := 0

namespace RuleSet

/-- Notes a source that gives no rules. -/
def fail (s : RuleSet) (source reason : String) : Bool × RuleSet :=
  (false, { s with errors := s.errors ++ [⟨source, reason⟩], sources := s.sources + 1 })

/-- Reads a text, and says whether all of it was good. -/
def addText (s : RuleSet) (source text : String) : Bool × RuleSet :=
  match parseRules text with
  | .error e => s.fail source e.message
  | .ok list =>
    (list.errors.isEmpty,
      { rules := s.rules ++ list.rules
        errors := s.errors ++ list.errors.map fun e => ⟨source, e.message⟩
        sources := s.sources + 1 })

def addBytes (s : RuleSet) (source : String) (bytes : List UInt8) : Bool × RuleSet :=
  match Utf8.decode? bytes with
  | some text => s.addText source (String.ofList text)
  | none => s.fail source "Rule file is not valid UTF-8"

def addFile (s : RuleSet) (tree : FileTree) (path : String) : Bool × RuleSet :=
  match tree.read path with
  | .ok bytes => s.addBytes path bytes
  | .error fault => s.fail path ("Failed to read file: " ++ fault.message)

def addFiles (s : RuleSet) (tree : FileTree) : List String → Bool × RuleSet
  | [] => (true, s)
  | path :: rest =>
    let (clean, s) := s.addFile tree path
    let (others, s) := s.addFiles tree rest
    (clean && others, s)

/-- Reads all files below a directory. -/
def addDirectory (s : RuleSet) (tree : FileTree) (path : String) :
    Except ScanError Bool × RuleSet :=
  if tree.isDirectory path then
    match FileTree.regularFiles (tree.walk path) with
    | .ok paths =>
      let (clean, s) := s.addFiles tree paths
      (.ok clean, s)
    | .error (paths, fault) => (.error (.io fault.message), (s.addFiles tree paths).2)
  else (.error (.io (path ++ " is not a directory")), s)

/-- Reads a file or all files below a directory. -/
def addPath (s : RuleSet) (tree : FileTree) (path : String) : Except ScanError Bool × RuleSet :=
  if tree.isDirectory path then s.addDirectory tree path
  else if tree.has path then
    let (clean, s) := s.addFile tree path
    (.ok clean, s)
  else (.error (.missing path), s)

def check (s : RuleSet) : Except ScanError Unit :=
  match s.errors with
  | [] => .ok ()
  | first :: others => .error (.rules first others)

end RuleSet

end Triage
