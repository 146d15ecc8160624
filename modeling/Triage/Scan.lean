import Triage.RuleSet
import Triage.Scheduler

/-!
Scans: rules are loaded into an engine, and a file tree is walked and processed with it.
-/

namespace Triage

/-- Where the rules of a scan come from, paths before texts, and its settings. -/
structure ScanPlan where
  rulePaths : List String := []
  ruleTexts : List (String × String) := []
  config : ScanConfig := {}

/-- A scan that is ready to run. -/
structure Scanner where
  engine : Engine
  config : ScanConfig
  ruleErrors : List RuleError

namespace ScanPlan

def readPaths (tree : FileTree) (s : RuleSet) : List String → Except ScanError RuleSet
  | [] => .ok s
  | path :: rest =>
    match s.addPath tree path with
    | (.ok _, s) => readPaths tree s rest
    | (.error e, _) => .error e

def readTexts (s : RuleSet) (texts : List (String × String)) : RuleSet :=
  texts.foldl (fun s (name, text) => (s.addText name text).2) s

/-- Loads the rules. When the settings are strict no error may be left. -/
def prepare (p : ScanPlan) (tree : FileTree) : Except ScanError Scanner := do
  p.config.validate.mapError .config
  let s := readTexts (← readPaths tree {} p.rulePaths) p.ruleTexts
  if p.config.strict then s.check
  let engine ← (Engine.ofRules s.rules).mapError .pattern
  return ⟨engine, p.config, s.errors⟩

end ScanPlan

namespace Scanner

variable {σ : Type} [Sink σ]

def ruleRows (e : Engine) : List RuleRow := e.rules.map fun r => ⟨r.id, r.name⟩

def processor (s : Scanner) : Processor := Processor.create s.engine s.config

/-- Runs the scan of a path: the rules are written first, then all entries are processed. -/
def run (s : Scanner) (machine : Nat) (tree : FileTree) (path : String) (sink : σ) :
    Except ScanError ScanStats × σ :=
  match Sink.write (.rules (ruleRows s.engine) s.engine.statements) sink with
  | (.error e, sink) => (.error (.sink e), sink)
  | (.ok (), sink) =>
    let walked := do
      let scheduler ← Scheduler.create s.processor sink s.config machine
      let deliver (t : Scheduler σ) (batch : List FileEntry) : Except ScanError (Scheduler σ) :=
        .ok (t.schedule batch)
      tree.walkBatches path s.config.entryBatch deliver scheduler
    match walked with
    | .error e => (.error e, sink)
    | .ok (scheduler, _) => scheduler.finish

end Scanner

end Triage
