import Triage.Error
import Triage.FileTree

/-!
Walking a tree: its entries in order, a directory before what lies in it, in batches. Entries that
cannot be read are passed over.
-/

namespace Triage

/-- What is found at one place of a walk. -/
inductive WalkItem
  | entry (path name : String) (node : FileNode)
  | unreadable (f : FileFault)
  | withoutMetadata (path : String)
deriving Repr

namespace FileTree

/-- The path of an entry of a directory. -/
def join (path name : String) : String :=
  if path.endsWith "/" then path ++ name else path ++ "/" ++ name

/-- The last name of a path, or all of it if that is no name. -/
def lastName (path : String) : String :=
  match (names path).getLast? with
  | none | some ".." => path
  | some name => name

mutual

/-- The items below a node that is found at a path. -/
def itemsBelow (path : String) : FileNode → List WalkItem
  | .directory entries _ => itemsOf path entries
  | .locked f _ => [.unreadable f]
  | _ => []

def itemsOf (path : String) : List (String × FileNode) → List WalkItem
  | [] => []
  | (name, node) :: rest =>
    .entry (join path name) name node :: itemsBelow (join path name) node ++ itemsOf path rest

end

/-- The items of a walk. A link is not followed, but for the one that the walk starts at. -/
def walk (t : FileTree) (path : String) : List WalkItem :=
  match t.node false path with
  | .error f => [.unreadable f]
  | .ok node =>
    let below :=
      match node with
      | .link _ _ => ((t.target? path).map (itemsBelow path)).getD []
      | node => itemsBelow path node
    .entry path (lastName path) node :: below

/-- The paths of the files among the items, up to the first place that cannot be read. -/
def regularFiles : List WalkItem → Except (List String × FileFault) (List String)
  | [] => .ok []
  | .unreadable f :: _ => .error ([], f)
  | .withoutMetadata _ :: rest => regularFiles rest
  | .entry path _ node :: rest =>
    let own := if node.kind = .file then [path] else []
    match regularFiles rest with
    | .ok paths => .ok (own ++ paths)
    | .error (paths, f) => .error (own ++ paths, f)

end FileTree

namespace Walk

/-- The entry of an item, with its address. -/
def fileEntry (address : Nat) (path name : String) (node : FileNode) : FileEntry where
  dirent := ⟨path, name, address, node.kind⟩
  inode :=
    { address, size := node.size, created := node.times.created, modified := node.times.modified }
  content := node.stream?

variable {β ε : Type}

/-- Gives the entries of items to `deliver` in batches of `size`. `batch` holds the entries that wait,
last first, and `next` is the address of the next entry. The result counts all entries. -/
def batchesFrom (size : Nat) (deliver : β → List FileEntry → Except ε β) (next : Nat)
    (batch : List FileEntry) (b : β) : List WalkItem → Except ε (β × Nat)
  | [] => do
    let b ← if batch.isEmpty then pure b else deliver b batch.reverse
    return (b, next - 1)
  | .unreadable _ :: rest | .withoutMetadata _ :: rest => batchesFrom size deliver next batch b rest
  | .entry path name node :: rest => do
    let batch := fileEntry next path name node :: batch
    if size ≤ batch.length then
      batchesFrom size deliver (next + 1) [] (← deliver b batch.reverse) rest
    else batchesFrom size deliver (next + 1) batch b rest

def batches (size : Nat) (deliver : β → List FileEntry → Except ε β) (b : β)
    (items : List WalkItem) : Except ε (β × Nat) :=
  batchesFrom (max size 1) deliver 1 [] b items

end Walk

/-- Walks from a path and gives the entries to `deliver` in batches. Without the path there is no
walk. -/
def FileTree.walkBatches {β : Type} (t : FileTree) (path : String) (size : Nat)
    (deliver : β → List FileEntry → Except ScanError β) (b : β) : Except ScanError (β × Nat) :=
  if t.has path then Walk.batches size deliver b (t.walk path) else .error (.missing path)

end Triage
