import PythonAudit.Command.Run

/-!
# The program

Reads what a run needs from the disk into a file tree, runs, writes the files that the run wrote,
and prints.
-/

namespace PythonAudit

/-- The names in a directory on the disk. -/
def diskNames? (path : String) : IO (Option (List String)) :=
  try return some ((← (← IO.FS.realPath path).readDir).toList.map (·.fileName))
  catch _ => return none

/-- The content of a file on the disk. -/
def diskContent? (path : String) : IO (Option ByteArray) :=
  try return some (← IO.FS.readBinFile path) catch _ => return none

/-- The path on the disk without links. -/
def diskReal? (path : String) : IO (Option String) :=
  try return some (← IO.FS.realPath path).toString catch _ => return none

/-- A tree with an entry; one that does not fit is left out. -/
def withEntry (t : FileTree) (path : String) (e : Entry) : FileTree :=
  (t.add path e).toOption.getD t

/-- Reads a path, and everything below it when `deep` is set. Links that lead back into a directory
the reading is in are left out, and of files below it only those with Python are read. -/
partial def readDisk (deep : Bool) (inside : List String) (t : FileTree) (path : String) :
    IO FileTree := do
  match ← diskNames? path with
  | none =>
    if !inside.isEmpty && !Path.isPython path then return withEntry t path (.file ByteArray.empty)
    match ← diskContent? path with
    | some content => return withEntry t path (.file content)
    | none => return t
  | some names =>
    let mut tree := withEntry t path .directory
    if deep then
      let real := (← diskReal? path).getD path
      if inside.contains real then return t
      for name in names do
        tree ← readDisk true (real :: inside) tree (Path.join path name)
    return tree

/-- The directory that a path is in. -/
def directoryOf (path : String) : String :=
  match FileTree.splitLast (Path.pieces path.toList []) with
  | ([], _, _) => "."
  | ([""], _, _) => "/"
  | (before, _, _) => "/".intercalate before

/-- Reads what a path to write to needs. -/
def readForWriting (t : FileTree) (path : String) : IO FileTree := do
  readDisk false [] (← readDisk false [] t (directoryOf path)) path

/-- Reads what a run needs. -/
def readFor (i : Invocation) (s : Surroundings) : IO FileTree := do
  let mut tree : FileTree := {}
  for path in (i.config.map fun p => [p]).getD s.configFiles do
    tree ← readDisk false [] tree path
  match i.command with
  | .scan r =>
    tree ← readDisk true [] tree r.target
    if let some path := r.output then tree ← readForWriting tree path
    return tree
  | .detectors _ => return tree
  | .init path => readForWriting tree path

/-- The directory with the configuration files of the user. -/
def userConfigs? : IO (Option String) := do
  match ← IO.getEnv "XDG_CONFIG_HOME", ← IO.getEnv "HOME" with
  | some directory, home =>
    if directory.startsWith "/" then return some directory
    else return home.map fun h => Path.join h ".config"
  | none, home => return home.map fun h => Path.join h ".config"

/-- Runs the program on the disk. -/
def runOnDisk (arguments : List String) : IO UInt32 := do
  let colour := (← (← IO.getStdout).isTty) && (← IO.getEnv "NO_COLOR").isNone
  let surroundings : Surroundings := { colour, userConfigs := ← userConfigs? }
  let tree ←
    match Invocation.ofArguments arguments with
    | .ok i => readFor i surroundings
    | .error _ => pure {}
  let outcome := runArguments surroundings tree arguments
  for (path, content) in outcome.tree.writtenSince tree do
    IO.FS.writeBinFile path content
  IO.print outcome.out
  IO.eprint outcome.err
  return UInt32.ofNat outcome.code

end PythonAudit

/-- The program. -/
def main (arguments : List String) : IO UInt32 := PythonAudit.runOnDisk arguments
