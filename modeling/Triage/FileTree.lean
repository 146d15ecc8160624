import Triage.Entry

/-!
File trees with directories and symbolic links, and the paths into them.
-/

namespace Triage

inductive FileFault
  | notFound
  | notDirectory
  | isDirectory
  | tooManyLinks
  | other (reason : String)
deriving DecidableEq, Repr

def FileFault.message : FileFault → String
  | notFound => "No such file or directory (os error 2)"
  | notDirectory => "Not a directory (os error 20)"
  | isDirectory => "Is a directory (os error 21)"
  | tooManyLinks => "Too many levels of symbolic links (os error 40)"
  | other reason => reason

structure FileTimes where
  created : Option Timestamp := none
  modified : Option Timestamp := none
deriving DecidableEq, Repr, Inhabited

/-- What a file holds, unless it cannot be read. -/
inductive FileContent
  | bytes (bs : List UInt8)
  | fault (size : Nat) (f : FileFault)
deriving DecidableEq, Repr

/-- A node of a file tree. The entries of a directory are in the order of their names; those of a
locked one cannot be listed. -/
inductive FileNode
  | file (content : FileContent) (times : FileTimes)
  | link (target : String) (times : FileTimes)
  | directory (entries : List (String × FileNode)) (times : FileTimes)
  | locked (f : FileFault) (times : FileTimes)
  | special (times : FileTimes)
deriving Repr, Inhabited

namespace FileNode

def kind : FileNode → EntryKind
  | file _ _ => .file
  | link _ _ => .symlink
  | directory _ _ | locked _ _ => .directory
  | special _ => .other

def times : FileNode → FileTimes
  | file _ t | link _ t | directory _ t | locked _ t | special t => t

def size : FileNode → Nat
  | file (.bytes bs) _ => bs.length
  | file (.fault n _) _ => n
  | _ => 0

/-- A stream that opens the file when it is first used. -/
def stream? : FileNode → Option ByteStream
  | file (.bytes bs) _ => some { bytes := bs }
  | file (.fault _ f) _ => some { bytes := [], seekFailures := [(0, f.message)] }
  | _ => none

def isDirectory (n : FileNode) : Bool := n.kind = .directory

/-- The node below a directory that names lead to, with links taken as they are. -/
def descend? : FileNode → List String → Option FileNode
  | n, [] => some n
  | directory entries _, name :: rest => do (← entries.lookup name).descend? rest
  | _, _ :: _ => none

def insertEntry (name : String) (node : FileNode) :
    List (String × FileNode) → List (String × FileNode)
  | [] => [(name, node)]
  | entry :: rest =>
    if name < entry.1 then (name, node) :: entry :: rest
    else if name = entry.1 then (name, node) :: rest
    else entry :: insertEntry name node rest

/-- Puts a node where names lead to, and makes the directories on the way. -/
def insert (times : FileTimes) (node : FileNode) : List String → FileNode → FileNode
  | [], _ => node
  | name :: rest, directory entries t =>
    let below := (entries.lookup name).getD (directory [] times)
    directory (insertEntry name (insert times node rest below) entries) t
  | name :: rest, _ => directory [(name, insert times node rest (directory [] times))] times

end FileNode

structure FileTree where
  root : FileNode := .directory [] {}
  workingDirectory : List String := []
deriving Repr, Inhabited

namespace FileTree

/-- The names of a path, without those that stay where they are. -/
def names (path : String) : List String :=
  (path.splitOn "/").filter fun n => n ≠ "" && n ≠ "."

def isAbsolute (path : String) : Bool := path.startsWith "/"

/-- How many links may be followed for one path. -/
def linkLimit : Nat := 40

/-- Where names lead to from a directory. Links are followed on the way, and at the end if asked. -/
def resolveFrom (root : FileNode) (follow : Bool) (links : Nat) (here : List String) :
    List String → Except FileFault (List String)
  | [] => .ok here
  | name :: rest =>
    match root.descend? here with
    | some (.directory entries _) =>
      if name = ".." then resolveFrom root follow links here.dropLast rest
      else
        match entries.lookup name with
        | none => .error .notFound
        | some (.link target _) =>
          if rest.isEmpty && !follow then .ok (here ++ [name])
          else
            match links with
            | 0 => .error .tooManyLinks
            | links + 1 =>
              resolveFrom root follow links (if isAbsolute target then [] else here)
                (names target ++ rest)
        | some _ => resolveFrom root follow links (here ++ [name]) rest
    | _ => .error .notDirectory
termination_by path => (links, path.length)

/-- The place of a path in the tree, free of links. -/
def resolve (t : FileTree) (follow : Bool) (path : String) : Except FileFault (List String) := do
  if path.isEmpty then throw .notFound
  let here := if isAbsolute path then [] else t.workingDirectory
  let place ← resolveFrom t.root follow linkLimit here (names path)
  match t.root.descend? place with
  | none => throw .notFound
  | some n => if path.endsWith "/" && !n.isDirectory then throw .notDirectory else return place

def node (t : FileTree) (follow : Bool) (path : String) : Except FileFault FileNode := do
  match t.root.descend? (← t.resolve follow path) with
  | some n => return n
  | none => throw .notFound

/-- The node that a path leads to, if there is one. -/
def target? (t : FileTree) (path : String) : Option FileNode := (t.node true path).toOption

def has (t : FileTree) (path : String) : Bool := (t.target? path).isSome

def isDirectory (t : FileTree) (path : String) : Bool := (t.target? path).any (·.isDirectory)

/-- The bytes of a file. -/
def read (t : FileTree) (path : String) : Except FileFault (List UInt8) := do
  match ← t.node true path with
  | .file (.bytes bs) _ => return bs
  | .file (.fault _ f) _ => throw f
  | .directory _ _ | .locked _ _ => throw .isDirectory
  | .link _ _ => throw .notFound
  | .special _ => throw (.other "Invalid argument (os error 22)")

/-- The content of a file as a stream. -/
def stream (t : FileTree) (path : String) : Except FileFault ByteStream :=
  return { bytes := ← t.read path }

/-- Makes a file at a path, or empties the one that is there. Gives its place. -/
def create (t : FileTree) (path : String) : Except FileFault (List String × FileTree) := do
  let put (place : List String) : List String × FileTree :=
    (place, { t with root := .insert {} (.file (.bytes []) {}) place t.root })
  match t.resolve true path with
  | .ok place =>
    if (t.root.descend? place).any (·.isDirectory) then throw .isDirectory
    return put place
  | .error .notFound =>
    match (names path).getLast? with
    | none => throw .notFound
    | some name =>
      if path.endsWith "/" then throw .isDirectory
      let here := if isAbsolute path then [] else t.workingDirectory
      let parent ← resolveFrom t.root true linkLimit here (names path).dropLast
      match t.root.descend? parent with
      | some (.directory entries _) =>
        if (entries.lookup name).isSome then throw .notFound
        return put (parent ++ [name])
      | _ => throw .notDirectory
  | .error f => throw f

end FileTree

end Triage
