import PythonAudit.Detector.DangerousCall
import PythonAudit.Detector.Obfuscation

/-!
# Detectors

A `Detector` looks at every node of a tree, may finish its work at the end, and keeps its findings
until it is reset. A list of detectors is ordered: on one line the findings of an earlier detector
come first.
-/

namespace PythonAudit

open Syntax

/-- A detector with its state. -/
inductive Detector where
  | dangerousCalls (d : DangerousCalls)
  | obfuscation (d : Obfuscation)
deriving DecidableEq, Repr, Inhabited

namespace Detector

/-- The name of a detector. -/
def name : Detector → String
  | dangerousCalls _ => DangerousCalls.name
  | obfuscation _ => Obfuscation.name

/-- What a detector looks for. -/
def description : Detector → String
  | dangerousCalls _ => DangerousCalls.description
  | obfuscation _ => Obfuscation.description

/-- Looks at a node. -/
def visit (x : Context) (id : Nat) : Detector → Detector
  | dangerousCalls d => dangerousCalls (d.visit x id)
  | obfuscation d => obfuscation (d.visit x id)

/-- Finishes the work after the last node. -/
def finalize : Detector → Detector
  | dangerousCalls d => dangerousCalls d
  | obfuscation d => obfuscation d.finalize

/-- Forgets findings and literals. -/
def reset : Detector → Detector
  | dangerousCalls _ => dangerousCalls {}
  | obfuscation d => obfuscation d.reset

/-- The findings so far. -/
def findings : Detector → List Finding
  | dangerousCalls d => d.findings
  | obfuscation d => d.findings

/-- The detectors that every analysis uses. -/
def standard (t : Thresholds Double) (orders : List Rearrangement := []) : List Detector :=
  [dangerousCalls {}, obfuscation { thresholds := t, orders }]

/-- The findings of several detectors in the order of their lines. -/
def aggregate (ds : List Detector) : List Finding :=
  Finding.sorted (ds.flatMap findings)

end Detector

end PythonAudit
