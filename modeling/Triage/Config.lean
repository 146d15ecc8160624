import Triage.Text.Yaml

/-!
The settings of a scan.
-/

namespace Triage

/-- Without a number of workers there is one for each processor of the machine. -/
structure ScanConfig where
  workers : Option Nat := none
  chunkSize : Nat := 65536
  rowBatch : Nat := 1000
  queueDepth : Option Nat := none
  entryBatch : Nat := 100
  strict : Bool := false
deriving DecidableEq, Repr

inductive ConfigError
  | unreadable (path reason : String)
  | malformed
  | zero (name : String)
deriving DecidableEq, Repr

def ConfigError.message : ConfigError → String
  | unreadable path reason => "Failed to read " ++ path ++ ": " ++ reason
  | malformed => "Invalid configuration: malformed settings"
  | zero name => name ++ " must be greater than 0"

namespace ScanConfig

/-- The largest number that settings may hold. -/
def largest : Nat := 0xFFFFFFFFFFFFFFFF

/-- How many batches may wait: as given, or two for each worker. -/
def queueDepthFor (c : ScanConfig) (workers : Nat) : Nat :=
  c.queueDepth.getD (min (2 * workers) largest)

/-- Refuses settings that are zero, the first one in this order. -/
def validate (c : ScanConfig) : Except ConfigError Unit :=
  let workers := c.workers.getD 1
  let checks := [(workers, "worker_threads"), (c.chunkSize, "read_chunk_size"),
    (c.rowBatch, "output_batch_size"), (c.queueDepthFor workers, "scheduler_queue_depth"),
    (c.entryBatch, "walker_batch_size")]
  match checks.find? (·.1 == 0) with
  | some (_, name) => .error (.zero name)
  | none => .ok ()

/-- Takes over one setting. Settings that are not known are passed over, whatever their value. -/
def set? (c : ScanConfig) (key : String) (v : Yaml) : Option ScanConfig :=
  match key with
  | "worker_threads" => do return { c with workers := some (← v.natural?) }
  | "read_chunk_size" => do return { c with chunkSize := ← v.natural? }
  | "output_batch_size" => do return { c with rowBatch := ← v.natural? }
  | "scheduler_queue_depth" => do return { c with queueDepth := ← v.optionalNatural? }
  | "walker_batch_size" => do return { c with entryBatch := ← v.natural? }
  | "fail_on_rule_error" => do return { c with strict := ← v.bool? }
  | _ => some c

def names : List String :=
  ["worker_threads", "read_chunk_size", "output_batch_size", "scheduler_queue_depth",
    "walker_batch_size", "fail_on_rule_error"]

/-- Takes over settings in turn. No setting may come twice. -/
def setAll? (seen : List String) (c : ScanConfig) : List (Yaml × Yaml) → Option ScanConfig
  | [] => some c
  | (key, value) :: rest => do
    let name ← key.text?
    if seen.contains name then failure
    let c ← c.set? name value
    setAll? (if names.contains name then name :: seen else seen) c rest

/-- The settings that a document gives. One without content gives none. -/
def ofYaml? : Option Yaml → Option ScanConfig
  | none | some (.scalar _ .plain "") => some {}
  | some (.mapping p fields) =>
    let resolve := (Yaml.mapping p fields).resolve
    setAll? [] {} (fields.map fun (key, value) => (resolve key, resolve value))
  | some _ => none

def parse (text : String) : Except ConfigError ScanConfig :=
  match Yaml.parse? text >>= ofYaml? with
  | none => .error .malformed
  | some c => do
    c.validate
    return c

end ScanConfig

end Triage
