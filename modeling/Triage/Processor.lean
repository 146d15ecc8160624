import Triage.Config
import Triage.Engine
import Triage.Sink

/-!
Processing files: a file is read once for its digests and once for its hits, then the rules are
evaluated. Rows are kept until there are enough of them for a batch.
-/

namespace Triage

inductive ProcessError
  | read (address : Nat) (reason : String)
  | sink (e : SinkError)
deriving DecidableEq, Repr

def ProcessError.message : ProcessError → String
  | read address reason => "Failed to read file at address " ++ toString address ++ ": " ++ reason
  | sink e => "Failed to write rows: " ++ e.message

/-- What processing a content gave. -/
structure FileOutcome where
  hashes : FileHashes := {}
  summary : HitSummary := {}
  hits : Nat := 0
  bytes : Nat := 0

structure ProcessorStats where
  files : Nat := 0
  bytes : Nat := 0
  hits : Nat := 0
  ruleMatches : Nat := 0
deriving DecidableEq, Repr

/-- The rows that have not been given to the sink yet. -/
structure RowBuffer where
  hashes : List HashRow := []
  searchHits : List HitRow := []
  ruleMatches : List MatchRow := []

def RowBuffer.size (b : RowBuffer) : Nat :=
  b.hashes.length + b.searchHits.length + b.ruleMatches.length

/-- A processor. The hasher and the search are kept from stream to stream, and each pass starts them
anew. -/
structure Processor where
  engine : Engine
  chunkSize : Nat
  batchSize : Nat
  hasher : Hasher := {}
  search : Search.State := {}
  rows : RowBuffer := {}
  stats : ProcessorStats := {}

namespace Processor

def create (e : Engine) (c : ScanConfig) : Processor :=
  { engine := e, chunkSize := max c.chunkSize 1, batchSize := max c.rowBatch 1 }

/-- A processor of the same kind that has done nothing yet. -/
def fresh (p : Processor) : Processor :=
  { engine := p.engine, chunkSize := p.chunkSize, batchSize := p.batchSize }

/-- Work of a processor that gives rows to a sink. What was done before a failure stays done. -/
abbrev Work (σ α : Type) := ExceptT ProcessError (StateM (Processor × σ)) α

variable {σ : Type} [Sink σ]

def rowsOf : Work σ RowBuffer := return (← get).1.rows

def modifyRows (f : RowBuffer → RowBuffer) : Work σ Unit :=
  modify fun (p, s) => ({ p with rows := f p.rows }, s)

def modifyStats (f : ProcessorStats → ProcessorStats) : Work σ Unit :=
  modify fun (p, s) => ({ p with stats := f p.stats }, s)

def modifyHasher (f : Hasher → Hasher) : Work σ Unit :=
  modify fun (p, s) => ({ p with hasher := f p.hasher }, s)

def setSearch (state : Search.State) : Work σ Unit :=
  modify fun (p, s) => ({ p with search := state }, s)

def send (rows : Rows) : Work σ Unit := do
  let (p, s) ← get
  let (result, s) := Sink.write rows s
  set (p, s)
  match result with
  | .ok () => return ()
  | .error e => throw (.sink e)

/-- Gives the rows of one table to the sink, if there are any. They are let go once the sink has taken
them. -/
def sendTable {α : Type} (kept : RowBuffer → List α) (table : List α → Rows)
    (clear : RowBuffer → RowBuffer) : Work σ Unit := do
  let rows := kept (← rowsOf)
  if !rows.isEmpty then
    send (table rows)
    modifyRows clear

def sendHashes : Work σ Unit := sendTable (·.hashes) .hashes fun b => { b with hashes := [] }

def sendHits : Work σ Unit :=
  sendTable (·.searchHits) .searchHits fun b => { b with searchHits := [] }

def sendMatches : Work σ Unit :=
  sendTable (·.ruleMatches) .ruleMatches fun b => { b with ruleMatches := [] }

/-- Gives all rows to the sink, table by table. -/
def flush : Work σ Unit := do
  sendHashes
  sendHits
  sendMatches

def flushFull : Work σ Unit := do
  let (p, _) ← get
  if p.batchSize ≤ p.rows.size then flush

def flushFullHits : Work σ Unit := do
  let (p, _) ← get
  if p.batchSize ≤ p.rows.searchHits.length then sendHits

/-- Reads a stream to its end in pieces of the size and gives each piece to `step`. Every piece but the
last has bytes. -/
def eachPiece {β : Type} (address size : Nat) (step : β → List UInt8 → Work σ β) :
    Nat → ByteStream → β → Work σ (β × ByteStream)
  | 0, stream, b => return (b, stream)
  | fuel + 1, stream, b =>
    match stream.read size with
    | (.error reason, _) => throw (.read address reason)
    | (.ok [], stream) => return (b, stream)
    | (.ok piece, stream) => do eachPiece address size step fuel stream (← step b piece)

/-- Reads a stream from its start to its end. -/
def pass {β : Type} (address : Nat) (step : β → List UInt8 → Work σ β) (stream : ByteStream)
    (b : β) : Work σ (β × ByteStream) := do
  match stream.rewind with
  | (.error reason, _) => throw (.read address reason)
  | (.ok (), stream) =>
    eachPiece address (← get).1.chunkSize step (stream.bytes.length + 1) stream b

def hashPiece (_ : Unit) (piece : List UInt8) : Work σ Unit :=
  modifyHasher fun h => h.absorb piece

/-- Takes the digests of a stream and counts its bytes. -/
def hashStream (address : Nat) (stream : ByteStream) : Work σ (FileHashes × Nat × ByteStream) := do
  modifyHasher fun _ => {}
  let (_, stream) ← pass address hashPiece stream ()
  let hasher := (← get).1.hasher
  modifyHasher fun _ => {}
  return (hasher.finish, hasher.taken, stream)

/-- The hits of a stream so far. -/
structure Progress where
  summary : HitSummary
  hits : Nat := 0

def hitRow (e : Engine) (fileHash : String) (h : Search.Hit) : Option HitRow := do
  let owner ← e.owner? h.pattern
  let info ← e.program.info? h.pattern
  return ⟨info.text, h.start, h.stop, owner.ruleId, fileHash, h.length⟩

/-- Makes rows of hits and counts them. -/
def recordHits (fileHash : String) (hits : List Search.Hit) (g : Progress) : Work σ Progress := do
  let e := (← get).1.engine
  let rows := hits.filterMap (hitRow e fileHash)
  modifyRows fun b => { b with searchHits := b.searchHits ++ rows }
  return ⟨hits.foldl (HitSummary.record e) g.summary, g.hits + rows.length⟩

def searchPiece (fileHash : String) (g : Progress) (piece : List UInt8) : Work σ Progress := do
  let (p, _) ← get
  let (hits, state) := Search.feed p.engine.program p.search piece
  setSearch state
  let g ← recordHits fileHash hits g
  flushFullHits
  return g

/-- Takes the hits that are still held back at the end of a stream. -/
def finishSearch (fileHash : String) (g : Progress) : Work σ Progress := do
  let (p, _) ← get
  let (hits, _, state) := Search.close p.engine.program p.search
  setSearch state
  recordHits fileHash hits g

/-- Searches a stream, unless there is nothing to search for. -/
def searchStream (address : Nat) (fileHash : String) (stream : ByteStream) : Work σ Progress := do
  let e := (← get).1.engine
  if e.program.isEmpty then return ⟨.empty e, 0⟩
  setSearch {}
  let (g, _) ← pass address (searchPiece fileHash) stream ⟨.empty e, 0⟩
  finishSearch fileHash g

/-- Makes the row of a content's digests and counts the file. -/
def recordContent (address : Nat) (hashes : FileHashes) (bytes : Nat) (found : Progress) :
    Work σ FileOutcome := do
  modifyRows fun b => { b with hashes := b.hashes ++ [⟨address, hashes⟩] }
  modifyStats fun t => { t with
    files := t.files + 1, bytes := t.bytes + bytes, hits := t.hits + found.hits }
  flushFull
  return ⟨hashes, found.summary, found.hits, bytes⟩

/-- Takes the digests and the hits of a content. -/
def process (address : Nat) (stream : ByteStream) : Work σ FileOutcome := do
  let (hashes, bytes, stream) ← hashStream address stream
  let found ← searchStream address hashes.blake3 stream
  recordContent address hashes bytes found

/-- Evaluates the rules for an entry, and says how many of them match. -/
def matchRules (d : Dirent) (n : Inode) (outcome : Option FileOutcome) : Work σ Nat := do
  let e := (← get).1.engine
  let matched := e.matching ⟨d, n, outcome.map (·.hashes), outcome.map (·.summary)⟩
  let rows := matched.map fun r => (⟨r.id, d.path, d.name, n.address⟩ : MatchRow)
  modifyRows fun b => { b with ruleMatches := b.ruleMatches ++ rows }
  modifyStats fun t => { t with ruleMatches := t.ruleMatches + rows.length }
  flushFull
  return rows.length

/-- Processes an entry's content, if it has one, and evaluates the rules. -/
def processEntry (entry : FileEntry) : Work σ Unit := do
  let outcome ←
    match entry.content with
    | some stream => some <$> process entry.inode.address stream
    | none => pure none
  discard <| matchRules entry.dirent entry.inode outcome

def run {α : Type} (w : Work σ α) (p : Processor) (s : σ) :
    Except ProcessError α × Processor × σ :=
  let step : StateM (Processor × σ) (Except ProcessError α) := ExceptT.run w
  step.run (p, s)

end Processor

end Triage
