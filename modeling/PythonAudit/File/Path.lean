/-!
# Paths

A path is text with slashes between its components. Empty components and dots count for nothing,
except a dot at the start of a path that does not start with a slash.
-/

namespace PythonAudit

/-- A component of a path. -/
inductive Component where
  | root
  | here
  | up
  | name (text : String)
deriving DecidableEq, Repr, Inhabited

namespace Path

/-- Cuts a text at its slashes. -/
def pieces : List Char → List Char → List String
  | [], acc => [String.ofList acc.reverse]
  | c :: r, acc =>
    if c = '/' then String.ofList acc.reverse :: pieces r [] else pieces r (c :: acc)

/-- The component that a piece between slashes stands for. -/
def component? (piece : String) : Option Component :=
  if piece = "" || piece = "." then none
  else if piece = ".." then some .up
  else some (.name piece)

/-- The components of a path. -/
def components (path : String) : List Component :=
  let rest := (pieces path.toList []).filterMap component?
  match pieces path.toList [] with
  | "" :: _ :: _ => .root :: rest
  | "." :: _ => .here :: rest
  | _ => rest

/-- The last component of a path, when it is a name. -/
def fileName? (path : String) : Option String :=
  match (components path).getLast? with
  | some (.name n) => some n
  | _ => none

/-- The part of a file name after its last dot; a dot at the start divides nothing. -/
def extension? (name : String) : Option String :=
  let tail := name.toList.reverse.takeWhile (· != '.')
  if tail.length + 1 < name.length then some (String.ofList tail.reverse) else none

/-- A path below a directory: nothing is put between them when the directory is empty or ends with a
slash. -/
def join (directory below : String) : String :=
  if directory = "" || directory.toList.getLast? == some '/' then directory ++ below
  else directory ++ "/" ++ below

end Path

/-- The order of components: the root, dots, and names by their text. -/
def Component.rank : Component → Nat
  | .root => 0
  | .here => 1
  | .up => 2
  | .name _ => 3

/-- One component comes before another one. -/
def Component.before (a b : Component) : Bool :=
  match a, b with
  | .name s, .name t => s < t
  | a, b => a.rank < b.rank

/-- Lists of components in the order of a dictionary. -/
def Path.notAfter : List Component → List Component → Bool
  | [], _ => true
  | _ :: _, [] => false
  | a :: as, b :: bs => a.before b || (a == b && Path.notAfter as bs)

end PythonAudit
