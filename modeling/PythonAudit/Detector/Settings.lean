import PythonAudit.Detector.Entropy
import PythonAudit.Json.Basic

/-!
# Thresholds in JSON

The members have fixed names; one that is missing takes its usual value, and one of the wrong kind
makes the whole value unreadable.
-/

namespace PythonAudit

namespace Thresholds

/-- The names of the members. -/
def keys : List String := ["min_length", "report_length", "ratio_threshold", "wide_alphabet_length"]

/-- Thresholds in JSON. -/
def toJson (t : Thresholds Double) : Json :=
  .object [("min_length", .natural t.minLength), ("report_length", .natural t.reportLength),
    ("ratio_threshold", .number t.ratio), ("wide_alphabet_length", .natural t.wideLength)]

/-- The thresholds that a JSON value describes. -/
def ofJson? (j : Json) : Option (Thresholds Double) := do
  match ← j.record? keys with
  | [min, report, ratio, wide] =>
    return {
      minLength := ← Json.orElse? Json.natural? standard.minLength min
      reportLength := ← Json.orElse? Json.natural? standard.reportLength report
      ratio := ← Json.orElse? Json.number? standard.ratio ratio
      wideLength := ← Json.orElse? Json.natural? standard.wideLength wide }
  | _ => none

end Thresholds

end PythonAudit
