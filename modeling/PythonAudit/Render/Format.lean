import PythonAudit.Render.Text
import PythonAudit.Report.Json

/-!
# Output formats

A scan is shown as text to read, as JSON, or with one line for each file.
-/

namespace PythonAudit

namespace Render

/-- The line of a report. -/
def compactText (r : Report) : String :=
  r.filename ++ ": " ++ Nat.repr r.findings.length ++ " findings, risk " ++ outOfTen r.riskScore ++
    (if r.isSuccess then "" else " (error: " ++ r.error.getD "unknown" ++ ")")

/-- The colour of the line of a report. -/
def compactColour (r : Report) : Colour :=
  if !r.isSuccess then .red
  else if r.findings.isEmpty then .green
  else if RiskLevel.ofScore r.riskScore = .high then .red
  else .yellow

/-- One line for each file. -/
def compact (s : ScanReport) : Document :=
  s.reports.flatMap fun r => lineOf [styled (colourOf (compactColour r)) (compactText r)]

/-- The reports in JSON. -/
def json (s : ScanReport) : String := s.toJson.pretty ++ "\n"

end Render

/-- A way to show a scan. -/
inductive OutputFormat where
  | text
  | json
  | compact
deriving DecidableEq, Repr, Inhabited

namespace OutputFormat

/-- The format that is used unless another one is asked for. -/
def standard : OutputFormat := text

/-- The written name. -/
def written : OutputFormat → String
  | text => "text"
  | json => "json"
  | compact => "compact"

/-- The format with a name, whatever its case. -/
def ofName? (name : String) : Option OutputFormat :=
  match String.ofList (name.toList.map Char.toLower) with
  | "text" => some text
  | "json" => some json
  | "compact" => some compact
  | _ => none

/-- The complaint about an unknown name. -/
def unknown (name : String) : String :=
  "Unknown output format: " ++ name ++ " (expected text, json or compact)"

/-- A scan in a format. -/
def document (f : OutputFormat) (verbose : Bool) (s : ScanReport) : Document :=
  match f with
  | text => Render.text verbose s
  | json => [plainText (Render.json s)]
  | compact => Render.compact s

/-- Shows a scan. -/
def render (f : OutputFormat) (verbose colour : Bool) (s : ScanReport) : String :=
  (f.document verbose s).shown colour

end OutputFormat

end PythonAudit
