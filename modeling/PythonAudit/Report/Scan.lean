import PythonAudit.Report.Basic

/-!
# Reports of scans

A `ScanReport` has one report for each analyzed file.
-/

namespace PythonAudit

/-- The reports of a scan. -/
structure ScanReport where
  reports : List Report
deriving DecidableEq, Repr, Inhabited

namespace ScanReport

/-- Nothing was analyzed. -/
def isEmpty (s : ScanReport) : Bool := s.reports.isEmpty

/-- The number of findings in all reports. -/
def totalFindings (s : ScanReport) : Nat :=
  (s.reports.map fun r => r.findings.length).foldr (· + ·) 0

/-- The number of reports with findings. -/
def filesWithFindings (s : ScanReport) : Nat :=
  (s.reports.filter fun r => !r.findings.isEmpty).length

/-- The number of sources that could not be analyzed. -/
def failures (s : ScanReport) : Nat := (s.reports.filter fun r => !r.isSuccess).length

/-- The mean of the risk scores; zero when there are none. -/
def averageRisk (s : ScanReport) : Double :=
  if s.isEmpty then Double.zero
  else (Double.sum (s.reports.map (·.riskScore))).divNat s.reports.length

/-- The worst severity of all findings. -/
def maxSeverity? (s : ScanReport) : Option Severity :=
  Severity.worst? (s.reports.filterMap Report.maxSeverity?)

/-- The reports with a positive score, riskiest first; equal scores keep their order. -/
def byRisk (s : ScanReport) : List Report :=
  (s.reports.filter fun r => r.riskScore.isPositive).mergeSort fun a b =>
    b.riskScore.rank ≤ a.riskScore.rank

/-- Up to `n` reports with a positive score, riskiest first. -/
def riskiest (s : ScanReport) (n : Nat) : List Report := s.byRisk.take n

/-- All reports without the findings below a severity. -/
def filterMin (s : ScanReport) (min : Severity) : ScanReport :=
  ⟨s.reports.map fun r => r.retain min⟩

end ScanReport

end PythonAudit
