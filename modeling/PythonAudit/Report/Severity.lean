/-!
# Severities
-/

namespace PythonAudit

/-- How bad a finding is. -/
inductive Severity where
  | low
  | medium
  | high
  | critical
deriving DecidableEq, Repr, Inhabited

namespace Severity

/-- All severities, ascending. -/
def all : List Severity := [low, medium, high, critical]

/-- The place of a severity among all, from zero. -/
def rank : Severity → Nat
  | low => 0
  | medium => 1
  | high => 2
  | critical => 3

/-- How much a finding of a severity adds to the risk. -/
def weight : Severity → Nat
  | low => 1
  | medium => 3
  | high => 7
  | critical => 10

/-- A severity is at least as bad as another one. -/
def atLeast (s min : Severity) : Bool := min.rank ≤ s.rank

/-- The worse of two severities. -/
def max (s t : Severity) : Severity := if s.rank ≤ t.rank then t else s

/-- The written name. -/
def written : Severity → String
  | low => "LOW"
  | medium => "MEDIUM"
  | high => "HIGH"
  | critical => "CRITICAL"

/-- The severity with a name, whatever its case. All names are in ASCII, and no other character has
an ASCII letter of theirs as its lower case. -/
def ofName? (name : String) : Option Severity :=
  match String.ofList (name.toList.map Char.toLower) with
  | "low" => some low
  | "medium" => some medium
  | "med" => some medium
  | "high" => some high
  | "critical" => some critical
  | "crit" => some critical
  | _ => none

/-- The complaint about an unknown name. -/
def unknown (name : String) : String := "Unknown severity: " ++ name

/-- The worst of several severities. -/
def worst? : List Severity → Option Severity
  | [] => none
  | s :: ss =>
    match worst? ss with
    | none => some s
    | some t => some (s.max t)

end Severity

end PythonAudit
