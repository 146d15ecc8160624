import Triage.CommandLine

/-!
The program as it is started. What the arguments name is taken into a tree of files, the command runs
on that tree, and what it leaves behind is said and written.
-/

namespace Triage.Main

def faultOf : IO.Error → FileFault
  | .noFileOrDirectory .. | .noSuchThing .. => .notFound
  | .permissionDenied .. => .other "Permission denied (os error 13)"
  | .inappropriateType .. => .notDirectory
  | e => .other (toString e)

def timesOf (m : IO.FS.Metadata) : FileTimes :=
  { modified := some ⟨m.modified.sec, m.modified.nsec.toNat⟩ }

/-- Where a link leads to. A dead one leads to a name that no file has. -/
def targetOf (path : String) : IO String := do
  match ← (IO.FS.realPath path).toBaseIO with
  | .ok target => return target.toString
  | .error _ => return "/\x00"

/-- The node at a path, with all that lies below it. -/
partial def load (path : String) : IO FileNode := do
  let here := System.mkFilePath [path]
  let found ← here.symlinkMetadata
  let times := timesOf found
  match found.type with
  | .symlink => return .link (← targetOf path) times
  | .other => return .special times
  | .file =>
    try
      return .file (.bytes (← IO.FS.readBinFile path).toList) times
    catch e => return .file (.fault found.byteSize.toNat (faultOf e)) times
  | .dir =>
    try
      let mut entries := []
      for entry in ← here.readDir do
        if let .ok node ← (load (FileTree.join path entry.fileName)).toBaseIO then
          entries := FileNode.insertEntry entry.fileName node entries
      return .directory entries times
    catch e => return .locked (faultOf e) times

def put (t : FileTree) (place : List String) (node : FileNode) : FileTree :=
  { t with root := .insert {} node place t.root }

def putNew (t : FileTree) (place : List String) (node : FileNode) : FileTree :=
  if (t.root.descend? place).isSome then t else put t place node

/-- Takes over the directories on the way to a path and then what is at the path, if anything is. -/
def takeFrom (t : FileTree) (here : List String) : List String → IO FileTree
  | [] => return t
  | name :: rest => do
    let place := if name = ".." then here.dropLast else here ++ [name]
    let path := "/" ++ "/".intercalate place
    if !(← (System.mkFilePath [path]).pathExists) && !rest.isEmpty then return t
    if rest.isEmpty then
      match ← (load path).toBaseIO with
      | .error _ => return t
      | .ok (.link target times) =>
        let t := put t place (.link target times)
        match ← (load target).toBaseIO with
        | .error _ => return t
        | .ok node => return put t (FileTree.names target) node
      | .ok node => return put t place node
    else if ← (System.mkFilePath [path]).isDir then
      takeFrom (putNew t place (.directory [] {})) place rest
    else return putNew t place (.file (.bytes []) {})

def take (t : FileTree) (path : String) : IO FileTree :=
  takeFrom t (if FileTree.isAbsolute path then [] else t.workingDirectory) (FileTree.names path)

/-- The paths that a command reads, before the one that it writes. -/
def pathsOf : CommandLine.Command → List String
  | .scan rules input output _ config => input :: rules :: config.toList ++ [output]
  | .check rules => [rules]
  | .help | .version => []

def treeFor (arguments : List String) : IO FileTree := do
  let home := FileTree.names (← IO.currentDir).toString
  let t : FileTree := ⟨.insert {} (.directory [] {}) home default, home⟩
  match CommandLine.parse arguments with
  | .error _ => return t
  | .ok command => (pathsOf command).foldlM take t

/-- The lines of a file that could not be written. -/
def unwritten (path : String) (e : IO.Error) : List String :=
  let failure := SinkError.io (faultOf e).message
  CommandLine.failureLines ("creating " ++ path) (failure.message :: failure.causes)

def run (arguments : List String) : IO UInt32 := do
  let o := CommandLine.run 1 (← treeFor arguments) arguments
  let mut code := o.code.toUInt32
  let mut errors := o.errors
  if let some (path, text) := o.written then
    if let .error e ← (IO.FS.writeFile path text).toBaseIO then
      code := 1
      errors := unwritten path e
  for line in o.output do IO.println line
  for line in errors do IO.eprintln line
  return code

end Triage.Main

def main (arguments : List String) : IO UInt32 := Triage.Main.run arguments
