import Triage.ByteStream
import Triage.Timestamp

/-!
What a walk finds: directory entries, their metadata and their content.
-/

namespace Triage

inductive EntryKind
  | file | directory | symlink | other
deriving DecidableEq, Repr

def EntryKind.name : EntryKind → String
  | file => "file"
  | directory => "directory"
  | symlink => "symlink"
  | other => "other"

structure Dirent where
  path : String
  name : String
  address : Nat
  kind : EntryKind
deriving DecidableEq, Repr

/-- The type of a file as its content shows it. -/
structure FileSignature where
  name : String
  id : String
deriving DecidableEq, Repr

structure Inode where
  address : Nat
  size : Nat
  created : Option Timestamp := none
  modified : Option Timestamp := none
  signature : Option FileSignature := none
deriving DecidableEq, Repr

/-- An entry, with its content if it has one. -/
structure FileEntry where
  dirent : Dirent
  inode : Inode
  content : Option ByteStream := none
deriving DecidableEq, Repr

end Triage
