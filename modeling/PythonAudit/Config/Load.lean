import PythonAudit.Config
import PythonAudit.Failure

/-!
# Configuration files

A configuration that is asked for must be there and be valid. The usual files are tried in order,
and those that cannot be used are passed over.
-/

namespace PythonAudit

namespace Config

/-- The configuration in a file. -/
def load (t : FileTree) (path : String) : Except Failure Config :=
  match t.read path with
  | .error p => .error (.unreadable path p)
  | .ok content =>
    match String.fromUTF8? content with
    | none => .error (.unreadable path .notText)
    | some text =>
      match ofText? text with
      | some c => .ok c
      | none => .error (.badConfig path)

/-- The configuration in a file that need not be there. -/
def load? (t : FileTree) (path : String) : Option Config :=
  if t.isFile path then (load t path).toOption else none

/-- The first configuration that can be used, or the usual one. -/
def loadFirst (t : FileTree) (paths : List String) : Config := (paths.findSome? (load? t)).getD {}

/-- The configuration file of a user, below the directory with all of them. -/
def userFile (directory : String) : String := Path.join (Path.join directory "taiga") fileName

end Config

end PythonAudit
