import PythonAudit.Report.Finding
import PythonAudit.Syntax.Context
import PythonAudit.Syntax.Name

/-!
# Calls of dangerous functions

A call is reported when the dotted name it calls is on a list.
-/

namespace PythonAudit

open Syntax

/-- The functions that are dangerous to call. -/
def dangerousFunctions : List String :=
  ["eval", "exec", "execfile", "compile", "__import__",
    "os.system", "os.popen", "os.popen2", "os.popen3", "os.popen4",
    "subprocess.Popen", "subprocess.call", "subprocess.run", "subprocess.check_call",
    "subprocess.check_output",
    "pickle.load", "pickle.loads", "marshal.load", "marshal.loads", "yaml.load"]

/-- The dangerous functions that run code at once. -/
def highRiskFunctions : List String := ["eval", "exec", "__import__"]

/-- How bad the call of a dangerous function is. -/
def callSeverity (name : String) : Severity :=
  if highRiskFunctions.contains name then .high else .medium

/-- The detector of dangerous calls: its findings so far. -/
structure DangerousCalls where
  findings : List Finding := []
deriving DecidableEq, Repr, Inhabited

namespace DangerousCalls

/-- The name of the detector. -/
def name : String := "DangerousCallsDetector"

/-- What the detector looks for. -/
def description : String :=
  "Calls to code execution, process spawning and unsafe deserialization functions"

/-- The finding for a node that calls a dangerous function. -/
def finding? (a : Arena) (id : Nat) : Option Finding :=
  match a.node? id, a.callee? id with
  | some n, some f =>
    if dangerousFunctions.contains f then
      some ⟨name, callSeverity f, "Call to dangerous function: " ++ f, n.line, n.column, f⟩
    else none
  | _, _ => none

/-- Looks at a node. -/
def visit (d : DangerousCalls) (x : Context) (id : Nat) : DangerousCalls :=
  ⟨d.findings ++ (finding? x.arena id).toList⟩

end DangerousCalls

end PythonAudit
