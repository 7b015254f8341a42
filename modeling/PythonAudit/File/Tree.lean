import PythonAudit.File.Path

/-!
# File trees

* A file tree gives each place below the working directory its entry: a file, a directory or a link.
* A place is the list of the names on the way to it. The working directory is `[]`, the root of all
  paths `["/"]`, and what is above the working directory starts with `".."`.
* Looking a path up follows the links on the way, at most forty of them.
* Writing a file changes the entry of one place and keeps all others (`FileTree.get?_put_of_ne`).
-/

namespace PythonAudit

/-- What is at a place. -/
inductive Entry where
  | file (content : ByteArray)
  | directory
  | link (target : String)
deriving Inhabited

/-- A place in a file tree. -/
abbrev Place := List String

/-- Why a file cannot be used. -/
inductive Problem where
  | notFound
  | notDirectory
  | isDirectory
  | nameTooLong
  | tooManyLinks
  | zeroByte
  | notText
deriving DecidableEq, Repr, Inhabited

/-- The words for a problem. -/
def Problem.message : Problem → String
  | .notFound => "No such file or directory (os error 2)"
  | .notDirectory => "Not a directory (os error 20)"
  | .isDirectory => "Is a directory (os error 21)"
  | .nameTooLong => "File name too long (os error 36)"
  | .tooManyLinks => "Too many levels of symbolic links (os error 40)"
  | .zeroByte => "file name contained an unexpected NUL byte"
  | .notText => "stream did not contain valid UTF-8"

/-- The entries of a tree, each with its place. -/
structure FileTree where
  entries : List (Place × Entry) := []
deriving Inhabited

namespace FileTree

/-! ### Places -/

/-- The two places that are always directories. -/
def isTop (place : Place) : Bool := place == [] || place == ["/"]

/-- The entry at a place. -/
def get? (t : FileTree) (place : Place) : Option Entry :=
  if isTop place then some .directory else t.entries.lookup place

/-- There is a directory at the place. -/
def isDirectoryAt (t : FileTree) (place : Place) : Bool :=
  match t.get? place with
  | some .directory => true
  | _ => false

/-- Puts an entry at a place, instead of the one that was there. -/
def put (t : FileTree) (place : Place) (e : Entry) : FileTree := ⟨(place, e) :: t.entries⟩

/-- The place above another one. -/
def above (place : Place) : Place :=
  if place = ["/"] then place
  else if place = [] || place.getLast? = some ".." then place ++ [".."]
  else place.dropLast

/-- The name of a place just below another one. -/
def childName? (directory place : Place) : Option String :=
  if place.dropLast = directory && !isTop place && place.getLast? != some ".." then place.getLast?
  else none

/-- The names in a directory, each of them once. -/
def names (t : FileTree) (directory : Place) : List String :=
  (t.entries.filterMap fun e => childName? directory e.1).eraseDups

/-- Putting an entry does not change other places. -/
theorem get?_put_of_ne (t : FileTree) {place other : Place} (e : Entry) (h : other ≠ place) :
    (t.put place e).get? other = t.get? other := by
  have hb : (other == place) = false := by simp [h]
  simp [get?, put, List.lookup_cons, hb]

/-! ### Looking up -/

/-- The largest number of bytes in a name. -/
def longestName : Nat := 255

/-- The number of bytes that a path must stay below. -/
def longestPath : Nat := 4096

/-- How many links are followed for one path. -/
def mostLinks : Nat := 40

/-- Where a path starts, and its pieces. -/
def start (here : Place) (path : String) : Place × List String :=
  (if path.startsWith "/" then ["/"] else here, Path.pieces path.toList [])

/-- Follows the pieces of a path from a place. -/
def follow (t : FileTree) (links : Nat) (here : Place) (pieces : List String) :
    Except Problem Place :=
  match pieces with
  | [] => .ok here
  | piece :: rest =>
    if !t.isDirectoryAt here then .error .notDirectory
    else if piece = "" || piece = "." then t.follow links here rest
    else if piece = ".." then
      if (t.get? (above here)).isNone then .error .notFound else t.follow links (above here) rest
    else if longestName < piece.utf8ByteSize then .error .nameTooLong
    else
      match t.get? (here ++ [piece]) with
      | none => .error .notFound
      | some (.link target) =>
        match links with
        | 0 => .error .tooManyLinks
        | left + 1 => t.follow left (start here target).1 ((start here target).2 ++ rest)
      | some _ => t.follow links (here ++ [piece]) rest
termination_by (links, pieces.length)

/-- A text that no path can be. -/
def refused? (path : String) : Option Problem :=
  if path.contains '\x00' then some .zeroByte
  else if path.isEmpty then some .notFound
  else if longestPath ≤ path.utf8ByteSize then some .nameTooLong
  else none

/-- The place that a path leads to from a place, links followed. -/
def resolveFrom (t : FileTree) (here : Place) (path : String) : Except Problem Place :=
  match refused? path with
  | some p => .error p
  | none => let (place, pieces) := start here path; t.follow mostLinks place pieces

/-- The place that a path leads to. -/
def resolve (t : FileTree) (path : String) : Except Problem Place := t.resolveFrom [] path

/-- A path leads to something. -/
def pathExists (t : FileTree) (path : String) : Bool := (t.resolve path).toOption.isSome

/-- A path leads to a directory. -/
def isDirectory (t : FileTree) (path : String) : Bool :=
  (t.resolve path).toOption.any t.isDirectoryAt

/-- The content of the file at a place. -/
def contentAt? (t : FileTree) (place : Place) : Option ByteArray :=
  match t.get? place with
  | some (.file content) => some content
  | _ => none

/-- A path leads to a file. -/
def isFile (t : FileTree) (path : String) : Bool :=
  (t.resolve path).toOption.any fun place => (t.contentAt? place).isSome

/-- The content of the file that a path leads to. -/
def read (t : FileTree) (path : String) : Except Problem ByteArray := do
  match t.contentAt? (← t.resolve path) with
  | some content => .ok content
  | none => .error .isDirectory

/-! ### Writing -/

/-- Where a file is written that a path names: the pieces of the path before its name, its name, and
whether something follows the name. -/
def splitLast (pieces : List String) : List String × String × Bool :=
  let kept := (pieces.reverse.dropWhile (· = "")).reverse
  (kept.dropLast, kept.getLast?.getD "", kept.length < pieces.length)

/-- Follows the pieces of a path to the place of the file that the last of them names, whether or
not it is there. The last piece may be a link too, and it counts like the links on the way. -/
def destination (t : FileTree) (links : Nat) (here : Place) (pieces : List String) :
    Except Problem Place :=
  match pieces with
  | [] => .error .isDirectory
  | piece :: rest =>
    if !t.isDirectoryAt here then .error .notDirectory
    else if rest.all (· = "") then
      if !rest.isEmpty || piece = "" || piece = "." || piece = ".." then .error .isDirectory
      else if longestName < piece.utf8ByteSize then .error .nameTooLong
      else
        match t.get? (here ++ [piece]) with
        | some .directory => .error .isDirectory
        | some (.link target) =>
          match links with
          | 0 => .error .tooManyLinks
          | left + 1 => t.destination left (start here target).1 (start here target).2
        | _ => .ok (here ++ [piece])
    else if piece = "" || piece = "." then t.destination links here rest
    else if piece = ".." then
      if (t.get? (above here)).isNone then .error .notFound
      else t.destination links (above here) rest
    else if longestName < piece.utf8ByteSize then .error .nameTooLong
    else
      match t.get? (here ++ [piece]) with
      | none => .error .notFound
      | some (.link target) =>
        match links with
        | 0 => .error .tooManyLinks
        | left + 1 => t.destination left (start here target).1 ((start here target).2 ++ rest)
      | some _ => t.destination links (here ++ [piece]) rest
termination_by (links, pieces.length)

/-- The place of the file that a path names, whether or not it is there: links are followed, and the
directory has to be there. -/
def target (t : FileTree) (links : Nat) (here : Place) (path : String) : Except Problem Place :=
  let (place, pieces) := start here path
  t.destination links place pieces

/-- Writes a file, instead of the one that was there. -/
def write (t : FileTree) (path : String) (content : ByteArray) : Except Problem FileTree :=
  match refused? path with
  | some p => .error p
  | none => (t.target mostLinks [] path).map fun place => t.put place (.file content)

/-! ### Building -/

/-- Makes the directories on the way down from a place, as far as they are not there. -/
def makeDirectories (t : FileTree) (here : Place) (pieces : List String) :
    Except Problem (FileTree × Place) :=
  match pieces with
  | [] => .ok (t, here)
  | piece :: rest =>
    match t.follow mostLinks here [piece] with
    | .ok place =>
      if t.isDirectoryAt place then t.makeDirectories place rest else .error .notDirectory
    | .error .notFound =>
      (t.put (here ++ [piece]) .directory).makeDirectories (here ++ [piece]) rest
    | .error p => .error p
termination_by pieces.length

/-- Adds an entry to a tree, with the directories on the way to it. -/
def add (t : FileTree) (path : String) (e : Entry) : Except Problem FileTree := do
  let (origin, pieces) := start [] path
  let (before, name, _) := splitLast pieces
  match e with
  | .directory => return (← t.makeDirectories origin (before ++ [name])).1
  | .file content => (← t.makeDirectories origin before).1.write path content
  | .link _ =>
    let (t, directory) ← t.makeDirectories origin before
    match t.get? (directory ++ [name]) with
    | none => return t.put (directory ++ [name]) e
    | some _ => .error .isDirectory

/-- The path of a place. -/
def pathOf : Place → String
  | "/" :: names => "/" ++ "/".intercalate names
  | names => "/".intercalate names

/-- The files that were written to a tree since it was another one. -/
def writtenSince (t old : FileTree) : List (String × ByteArray) :=
  (t.entries.take (t.entries.length - old.entries.length)).reverse.filterMap fun
    | (place, .file content) => some (pathOf place, content)
    | _ => none

end FileTree

end PythonAudit
