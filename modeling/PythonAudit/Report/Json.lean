import PythonAudit.Json.Reader
import PythonAudit.Json.Writer
import PythonAudit.Report.Scan

/-!
# Reports in JSON

Writers keep the members in a fixed order. Readers take an object, in which unknown members do not
matter, or an array of the values in the same order.
-/

namespace PythonAudit

open Json

/-- The word of a choice: a string, or an object with the word as its only key and no value. -/
def Json.choice? : Json → Option String
  | .string s => some s
  | .object [(k, .null)] => some k
  | _ => none

/-! ### Severities and states -/

/-- The severity with exactly the written name. -/
def Severity.ofWritten? (s : String) : Option Severity :=
  Severity.all.find? fun v => v.written == s

/-- The status with exactly the written name. -/
def Status.ofWritten? (s : String) : Option Status :=
  [Status.success, Status.error].find? fun v => v.written == s

/-! ### Findings -/

/-- A finding in JSON. -/
def Finding.toJson (f : Finding) : Json :=
  .object [("detector", .string f.detector), ("severity", .string f.severity.written),
    ("description", .string f.description), ("line", .natural f.line), ("col", .natural f.column),
    ("pattern", .string f.pattern)]

/-- The finding that a JSON value describes. -/
def Finding.ofJson? (j : Json) : Option Finding := do
  match ← j.record? ["detector", "severity", "description", "line", "col", "pattern"] with
  | [some detector, some severity, some description, some line, some column, some pattern] =>
    return {
      detector := ← detector.string?
      severity := ← severity.choice?.bind Severity.ofWritten?
      description := ← description.string?
      line := ← line.natural?
      column := ← column.natural?
      pattern := ← pattern.string? }
  | _ => none

/-- The findings that a JSON array describes. -/
def Finding.listOfJson? (j : Json) : Option (List Finding) := do
  (← j.array?).mapM Finding.ofJson?

/-! ### Reports -/

/-- A report in JSON; without an error there is no such member. -/
def Report.toJson (r : Report) : Json :=
  .object ([("filename", .string r.filename), ("findings", .array (r.findings.map Finding.toJson)),
    ("risk_score", .number r.riskScore), ("status", .string r.status.written)] ++
    r.error.toList.map fun e => ("error", .string e))

/-- A text that may be missing or null. -/
def Json.optionalString? : Option Json → Option (Option String)
  | none => some none
  | some .null => some none
  | some (.string s) => some (some s)
  | some _ => none

/-- The report that a JSON value describes. -/
def Report.ofJson? (j : Json) : Option Report := do
  match ← j.record? ["filename", "findings", "risk_score", "status", "error"] with
  | [some filename, some findings, some score, some status, error] =>
    return {
      filename := ← filename.string?
      findings := ← Finding.listOfJson? findings
      riskScore := ← score.number?
      status := ← status.choice?.bind Status.ofWritten?
      error := ← Json.optionalString? error }
  | _ => none

/-- The reports of a scan in JSON. -/
def ScanReport.toJson (s : ScanReport) : Json := .array (s.reports.map Report.toJson)

/-- The scan that a JSON array describes. -/
def ScanReport.ofJson? (j : Json) : Option ScanReport := do
  return ⟨← (← j.array?).mapM Report.ofJson?⟩

/-- The scan that a text describes. -/
def ScanReport.ofText? (text : String) : Option ScanReport :=
  (Json.parse? text).bind ScanReport.ofJson?

end PythonAudit
