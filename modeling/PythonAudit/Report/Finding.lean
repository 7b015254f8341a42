import PythonAudit.Number.Double
import PythonAudit.Report.Severity

/-!
# Findings and their risk

A `Finding` is one suspicious place. Findings are kept in the order of their lines, and `riskScore`
weighs them on a scale from zero to ten.
-/

namespace PythonAudit

/-- One suspicious place: who found it, how bad it is, where it is, and what was matched. -/
structure Finding where
  detector : String
  severity : Severity
  description : String
  line : Nat
  column : Nat
  pattern : String
deriving DecidableEq, Repr, Inhabited

namespace Finding

/-- The findings in the order of their lines; findings of one line keep their order. -/
def sorted (fs : List Finding) : List Finding :=
  fs.mergeSort fun a b => a.line ≤ b.line

/-- The weights of all findings together, added as 32-bit words: what a word cannot hold is lost. -/
def totalWeight (fs : List Finding) : UInt32 :=
  fs.foldr (fun f weight => (UInt32.ofNat f.severity.weight).add weight) (UInt32.ofNat 0)

/-- A number rounded to two decimal places, a half upwards. -/
def roundHundredths (x : Rat) : Rat := (x * 100 + 1 / 2).floor / 100

/-- The smaller one of a number and ten. -/
def atMostTen (x : Rat) : Rat := if x ≤ 10 then x else 10

/-- The risk of findings as an exact number: a fifth of their weight, at most ten, to two places. -/
def exactScore (fs : List Finding) : Rat :=
  if fs.isEmpty then 0 else roundHundredths (atMostTen (mkRat (Int.ofNat (totalWeight fs).toNat) 5))

/-- The risk of findings. -/
def riskScore (fs : List Finding) : Double :=
  let x := exactScore fs
  Double.ofRatio x.num.natAbs x.den

end Finding

end PythonAudit
