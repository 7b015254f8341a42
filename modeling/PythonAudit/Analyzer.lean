import PythonAudit.Detector.Fallback
import PythonAudit.Detector.Walk
import PythonAudit.Report.Basic
import PythonAudit.Syntax.Source

/-!
# Analysis of one source

An `Analyzer` keeps its detectors from one source to the next; they are reset before each analysis,
so no report depends on what was analyzed before.
-/

namespace PythonAudit

open Syntax

/-- The detectors of an analysis. -/
structure Analyzer where
  detectors : List Detector
deriving DecidableEq, Repr, Inhabited

namespace Analyzer

/-- An analyzer with the usual detectors. -/
def new (t : Thresholds Double) (orders : List Rearrangement := []) : Analyzer :=
  ⟨Detector.standard t orders⟩

/-- The label of a source that is no file. -/
def defaultLabel : String := "<string>"

/-- Analyzes a source: its findings, or, when it cannot be parsed, the dangerous names among its
tokens. -/
def analyze (a : Analyzer) (source label : String) : Report × Analyzer :=
  let fresh := a.detectors.map Detector.reset
  match parse source with
  | .ok arena =>
    let ds := (walk arena fresh).2
    (Report.success label (Detector.aggregate ds), ⟨ds⟩)
  | .error e => (Report.failure label (Fallback.findings source) e.written, ⟨fresh⟩)

end Analyzer

end PythonAudit
