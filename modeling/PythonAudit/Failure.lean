import PythonAudit.File.Tree
import PythonAudit.Render.Format

/-!
# Failures

What can go wrong outside the analysis of a source, with its words and, for some failures, what
caused it.
-/

namespace PythonAudit

/-- Why something could not be done. -/
inductive Failure where
  | undecodable (path : String)
  | unreadable (path : String) (problem : Problem)
  | unwritable (problem : Problem)
  | badConfig (path : String)
  | noTarget (path : String)
  | unknownFormat (name : String)
  | unknownSeverity (name : String)
deriving DecidableEq, Repr, Inhabited

namespace Failure

/-- The complaint about a text that is no TOML document, or not one that configures. -/
def badDocument : String := "TOML parse error"

/-- The words for a failure. -/
def message : Failure → String
  | undecodable path => "failed to decode " ++ path ++ " as UTF-8"
  | unreadable path problem => "failed to read " ++ path ++ ": " ++ problem.message
  | unwritable problem => problem.message
  | badConfig path => "invalid config file " ++ path ++ ": " ++ badDocument
  | noTarget path => "target not found: " ++ path
  | unknownFormat name => OutputFormat.unknown name
  | unknownSeverity name => Severity.unknown name

/-- The words for what caused a failure. -/
def cause? : Failure → Option String
  | unreadable _ problem => some problem.message
  | badConfig _ => some badDocument
  | _ => none

end Failure

end PythonAudit
