import PythonAudit.Detector.Settings
import PythonAudit.Report.Severity
import PythonAudit.Toml.Document

/-!
# Configuration

A configuration is a TOML document. A setting that is missing keeps its usual value, one that is
unknown does not matter, and one of the wrong kind makes the document unusable.
-/

namespace PythonAudit

/-- The settings of a scan. Severities are kept as they were written. -/
structure Config where
  minSeverity : String := "low"
  failOn : String := "high"
  exclude : List String := []
  thresholds : Thresholds Double := Thresholds.standard
deriving DecidableEq, Repr, Inhabited

namespace Config

/-- The name of a configuration file. -/
def fileName : String := "taiga.toml"

/-! ### Reading -/

/-- A text. -/
def text? : Toml.Value → Option String
  | .string s => some s
  | _ => none

/-- A length. -/
def length? : Toml.Value → Option Nat
  | .integer (.ofNat n) => some n
  | _ => none

/-- A number. -/
def number? : Toml.Value → Option Double
  | .integer (.ofNat n) => some (Double.ofNat n)
  | .integer (.negSucc n) => some (Double.ofNat (n + 1)).neg
  | .float x => some x
  | _ => none

/-- Texts. -/
def texts? : Toml.Value → Option (List String)
  | .array vs => vs.mapM text?
  | _ => none

/-- The values of a record with the given keys: from a table by key, and from an array by place. -/
def record? (keys : List String) : Toml.Value → Option (List (Option Toml.Value))
  | .table ms => some (keys.map fun k => (Toml.Value.table ms).field? k)
  | .array vs => some ((List.range keys.length).map fun i => vs[i]?)
  | _ => none

/-- A setting that may be missing. -/
def setting {α : Type} (read : Toml.Value → Option α) (usual : α) : Option Toml.Value → Option α
  | none => some usual
  | some v => read v

/-- Thresholds. -/
def thresholds? (v : Toml.Value) : Option (Thresholds Double) := do
  match ← record? Thresholds.keys v with
  | [min, report, ratio, wide] =>
    return {
      minLength := ← setting length? Thresholds.standard.minLength min
      reportLength := ← setting length? Thresholds.standard.reportLength report
      ratio := ← setting number? Thresholds.standard.ratio ratio
      wideLength := ← setting length? Thresholds.standard.wideLength wide }
  | _ => none

/-- The settings of the analysis. -/
def analysis? (v : Toml.Value) : Option (Thresholds Double) := do
  match ← record? ["entropy"] v with
  | [entropy] => setting thresholds? Thresholds.standard entropy
  | _ => none

/-- The configuration that a document describes. -/
def ofValue? (v : Toml.Value) : Option Config := do
  match ← record? ["min_severity", "fail_on", "exclude", "analyzer"] v with
  | [min, fail, exclude, analyzer] =>
    return {
      minSeverity := ← setting text? "low" min
      failOn := ← setting text? "high" fail
      exclude := ← setting texts? [] exclude
      thresholds := ← setting analysis? Thresholds.standard analyzer }
  | _ => none

/-- The configuration that a text describes. -/
def ofText? (text : String) : Option Config := (Toml.parse? text).bind ofValue?

/-! ### Writing -/

/-- The text of a new configuration file. -/
def initialText : String :=
  "# taiga configuration\n\n" ++
  "# Hide findings below this severity: low, medium, high, critical\n" ++
  "min_severity = \"low\"\n\n" ++
  "# Exit with status 1 when a finding at or above this severity is reported\n" ++
  "fail_on = \"high\"\n\n" ++
  "# Glob patterns skipped when scanning directories\n" ++
  "exclude = [\n    # \"**/vendor/**\",\n    # \"**/tests/fixtures/**\",\n]\n\n" ++
  "[analyzer.entropy]\n" ++
  "# String literals shorter than this are never scored\n" ++
  "min_length = 20\n" ++
  "# Literals must be longer than this to be reported\n" ++
  "report_length = 30\n" ++
  "# Normalized entropy (0..1) above which a literal is reported\n" ++
  "ratio_threshold = 0.85\n" ++
  "# Longer literals are normalized by 8 bits per character instead of log2(94)\n" ++
  "wide_alphabet_length = 50\n"

end Config

end PythonAudit
