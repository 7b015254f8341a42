import PythonAudit.File.Tree
import PythonAudit.Glob.Reader

/-!
# Finding Python files

* A walk below a directory goes through links too, except into a directory that it is in already.
* Found are the files with the extension `py` whose path below the directory no pattern excludes.
* They come in the order of their components.
-/

namespace PythonAudit

namespace FileTree

/-- Where a link in a directory leads, when it leads somewhere. -/
def linked? (t : FileTree) (directory : Place) (name : String) : Option Place :=
  (t.follow mostLinks directory [name]).toOption

/-- The files below a directory, by the names on the way to them. The directories that the walk is
in are given; only links are stopped from entering them again. The walk is an ideal one: every
directory can be read and nothing changes under way, so no entry is lost to an error of the file
system. -/
def filesBelow (t : FileTree) : Nat → List Place → Place → List (List String)
  | 0, _, _ => []
  | depth + 1, inside, directory =>
    (t.names directory).flatMap fun name =>
      match t.get? (directory ++ [name]) with
      | some (.file _) => [[name]]
      | some .directory =>
        let place := directory ++ [name]
        (t.filesBelow depth (place :: inside) place).map (name :: ·)
      | some (.link _) =>
        match t.linked? directory name with
        | some place =>
          if !t.isDirectoryAt place then [[name]]
          else if inside.contains place then []
          else (t.filesBelow depth (place :: inside) place).map (name :: ·)
        | none => []
      | none => []

/-- A bound on the depth of a walk: it enters each directory by at most one link, and goes on from
there by directories within directories. -/
def deepest (t : FileTree) : Nat := (t.entries.length + 2) * (t.entries.length + 2)

/-- The files below a path, by the names on the way from it. The path of a file leads to that
file. -/
def walk (t : FileTree) (path : String) : List (List String) :=
  match t.resolve path with
  | .ok place => if t.isDirectoryAt place then t.filesBelow t.deepest [place] place else [[]]
  | .error _ => []

end FileTree

/-- The patterns that are always excluded: records of changes and the stores of tools. -/
def standardExcludes : List String :=
  ["**/.git/**", "**/.hg/**", "**/.svn/**", "**/__pycache__/**", "**/.mypy_cache/**",
    "**/.pytest_cache/**", "**/.ruff_cache/**"]

/-- The patterns of a scan: the standard ones, and those among the given texts that are patterns. -/
def excludes (texts : List String) : Patterns :=
  Patterns.ofTexts standardExcludes ++ Patterns.ofTexts texts

/-- The extension of Python files. -/
def pythonExtension : String := "py"

/-- A path with names below it. -/
def Path.below (path : String) (names : List String) : String := names.foldl Path.join path

/-- A path has the extension of Python files. -/
def Path.isPython (path : String) : Bool :=
  (Path.fileName? path).bind Path.extension? == some pythonExtension

/-- One path comes before another one or is the same, by components. -/
def Path.le (a b : String) : Bool := Path.notAfter (Path.components a) (Path.components b)

/-- The Python files below a path that no pattern excludes, in order. -/
def FileTree.discover (t : FileTree) (root : String) (excluded : Patterns) : List String :=
  let found := (t.walk root).filter fun names =>
    Path.isPython (Path.below root names) && !excluded.matchesPath ("/".intercalate names)
  (found.map (Path.below root)).mergeSort Path.le

end PythonAudit
