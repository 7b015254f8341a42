import PythonAudit.Analyzer
import PythonAudit.Failure
import PythonAudit.File.Discover
import PythonAudit.Report.Scan

/-!
# Scans

* A file that cannot be read, or that holds no text, gives a report with the failure and without
  findings.
* A scan of a file analyzes it whatever its name; a scan of a directory analyzes the Python files
  below it.
-/

namespace PythonAudit

/-- The text of a file. -/
def FileTree.readSource (t : FileTree) (path : String) : Except Failure String :=
  match t.read path with
  | .error p => .error (.unreadable path p)
  | .ok content =>
    match String.fromUTF8? content with
    | some text => .ok text
    | none => .error (.undecodable path)

/-- Analyzes a file. -/
def Analyzer.analyzeFile (a : Analyzer) (t : FileTree) (path : String) : Report × Analyzer :=
  match t.readSource path with
  | .ok source => a.analyze source path
  | .error e => (Report.failure path [] e.message, a)

/-- What a scan looks for, where it does not, and the orders in which it adds up the characters of
the literals of each file. -/
structure ScanSettings where
  thresholds : Thresholds Double := Thresholds.standard
  exclude : List String := []
  orders : String → List Rearrangement := fun _ => []
deriving Inhabited

/-- The report of one file. -/
def ScanSettings.reportOf (s : ScanSettings) (t : FileTree) (path : String) : Report :=
  ((Analyzer.new s.thresholds (s.orders path)).analyzeFile t path).1

/-- Scans a file or a directory. -/
def ScanSettings.scan (s : ScanSettings) (t : FileTree) (target : String) :
    Except Failure ScanReport :=
  if t.isFile target then .ok ⟨[s.reportOf t target]⟩
  else if t.isDirectory target then
    .ok ⟨(t.discover target (excludes s.exclude)).map (s.reportOf t)⟩
  else .error (.noTarget target)

end PythonAudit
