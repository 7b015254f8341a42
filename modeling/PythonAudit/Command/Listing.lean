import PythonAudit.Detector.Basic
import PythonAudit.Detector.Fallback
import PythonAudit.Json.Writer
import PythonAudit.Render.Text

/-!
# The listing of the detectors
-/

namespace PythonAudit

namespace Listing

/-- The listing in JSON, its keys in order. -/
def json (ds : List Detector) : Json :=
  let texts (l : List String) : Json := .array (l.map .string)
  .object [
    ("dangerous_functions", texts dangerousFunctions),
    ("detectors", .array (ds.map fun d =>
      .object [("description", .string d.description), ("name", .string d.name)])),
    ("fallback", .object [("denylist", texts Fallback.denylist), ("name", .string Fallback.name)]),
    ("high_risk_functions", texts highRiskFunctions)]

/-- The line of a detector. -/
def detectorLine (number : Nat) (d : Detector) : Document :=
  lineOf [plainText ("  " ++ Nat.repr number ++ ". "),
    styled { foreground := some .brightCyan } d.name,
    plainText (" - " ++ d.description)]

/-- The line of a dangerous function. -/
def functionLine (name : String) : Document :=
  let severity : Severity := if highRiskFunctions.contains name then .high else .medium
  let colour : Colour := if highRiskFunctions.contains name then .red else .yellow
  lineOf [plainText ("  " ++ Render.padRight 26 name ++ " ["),
    styled { foreground := some colour } severity.written,
    plainText "]"]

/-- The listing to read. -/
def text (ds : List Detector) : Document :=
  lineOf [styled { bold := true, underline := true } "Registered detectors"]
    ++ (ds.zipIdx 1).flatMap (fun (d, i) => detectorLine i d)
    ++ lineOf [plainText "  -  ", styled { foreground := some .brightCyan } Fallback.name,
      plainText " - fallback for sources that fail to parse"]
    ++ lineOf []
    ++ lineOf [styled { bold := true } "Dangerous functions"]
    ++ dangerousFunctions.flatMap functionLine
    ++ lineOf []
    ++ lineOf [plainText ("Fallback denylist: " ++ ", ".intercalate Fallback.denylist)]

end Listing

end PythonAudit
