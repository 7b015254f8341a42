import PythonAudit.Report.Finding

/-!
# Reports

* `Report` holds the findings of one source, their risk, and what went wrong with the source, if
  anything;
* `Report.build` sorts and weighs; `Report.success` and `Report.failure` are the two ways to make a
  report;
* `Report.retain` drops findings below a severity and weighs again;
* `RiskLevel` is a coarse scale of risk.
-/

namespace PythonAudit

/-- Whether a source could be analyzed. -/
inductive Status where
  | success
  | error
deriving DecidableEq, Repr, Inhabited

/-- The written name. -/
def Status.written : Status → String
  | .success => "success"
  | .error => "error"

/-- The findings of one source. -/
structure Report where
  filename : String
  findings : List Finding
  riskScore : Double
  status : Status
  error : Option String := none
deriving DecidableEq, Repr, Inhabited

namespace Report

/-- A report with the findings in order and their risk. -/
def build (filename : String) (findings : List Finding) (status : Status) (error : Option String) :
    Report :=
  let sorted := Finding.sorted findings
  { filename, findings := sorted, riskScore := Finding.riskScore sorted, status, error }

/-- The report of a source that could be analyzed. -/
def success (filename : String) (findings : List Finding) : Report :=
  build filename findings .success none

/-- The report of a source that could not be analyzed. -/
def failure (filename : String) (findings : List Finding) (error : String) : Report :=
  build filename findings .error (some error)

/-- The source could be analyzed. -/
def isSuccess (r : Report) : Bool := r.status == .success

/-- The worst severity of the findings. -/
def maxSeverity? (r : Report) : Option Severity :=
  Severity.worst? (r.findings.map (·.severity))

/-- The number of findings of a severity. -/
def count (r : Report) (s : Severity) : Nat :=
  (r.findings.filter fun f => f.severity == s).length

/-- How many findings there are of each severity that occurs, ascending. -/
def severityCounts (r : Report) : List (Severity × Nat) :=
  (Severity.all.map fun s => (s, r.count s)).filter fun p => 0 < p.2

/-- The report without the findings below a severity. -/
def retain (r : Report) (min : Severity) : Report :=
  build r.filename (r.findings.filter fun f => f.severity.atLeast min) r.status r.error

end Report

/-- A coarse scale of risk. -/
inductive RiskLevel where
  | low
  | medium
  | high
deriving DecidableEq, Repr, Inhabited

namespace RiskLevel

/-- The level of a score: low at zero, medium below five. -/
def ofScore (score : Double) : RiskLevel :=
  if score.isZero then low
  else if score.lt (Double.ofNat 5) then medium
  else high

/-- The name of a level. -/
def name : RiskLevel → String
  | low => "Low"
  | medium => "Medium"
  | high => "High"

end RiskLevel

end PythonAudit
