import PythonAudit.Detector.Entropy
import PythonAudit.Report.Finding
import PythonAudit.Syntax.Context
import PythonAudit.Syntax.Name

/-!
# Obfuscated code

Two signs of obfuscation: a call that decodes base64 straight into a call that runs code, and a
string literal of high entropy. Literals wait until the whole tree has been seen and are scored
then, each of them in an order of its own.
-/

namespace PythonAudit

open Syntax

/-- Parts of the names of functions that decode base64. -/
def decodeTokens : List String := ["b64decode", "base64"]

/-- The functions that run code. -/
def execFunctions : List String := ["eval", "exec"]

/-- The part of a dotted name after its last dot. -/
def lastSegment (name : String) : String :=
  String.ofList (name.toList.reverse.takeWhile (· != '.')).reverse

/-- One text occurs in another one. -/
def occursIn (part : List Char) : List Char → Bool
  | [] => part.isEmpty
  | c :: r => part.isPrefixOf (c :: r) || occursIn part r

/-- The name looks like that of a function that decodes base64. -/
def isDecoder (name : String) : Bool :=
  decodeTokens.any fun t => occursIn t.toList name.toList

/-- A string literal that waits to be scored. -/
structure PendingLiteral where
  value : String
  line : Nat
  column : Nat
deriving DecidableEq, Repr, Inhabited

/-- The detector of obfuscation: its thresholds, the literals that wait, its findings so far, and
the orders in which the characters of the next literals will be added up. -/
structure Obfuscation where
  thresholds : Thresholds Double := Thresholds.standard
  pending : List PendingLiteral := []
  findings : List Finding := []
  orders : List Rearrangement := []
deriving DecidableEq, Repr, Inhabited

namespace Obfuscation

/-- The name of the detector. -/
def name : String := "ObfuscationDetector"

/-- What the detector looks for. -/
def description : String := "base64 decode-then-execute chains and high-entropy string literals"

/-- The last segments of the names of a decoding call and of the call that runs its result. -/
def chain? (x : Context) (id : Nat) : Option (String × String) := do
  let decoder := lastSegment (← x.arena.callee? id)
  let executor := lastSegment (← x.arena.callee? (← x.semanticParent? id))
  if isDecoder decoder && execFunctions.contains executor then some (decoder, executor) else none

/-- The finding for a decoding call whose result is run. -/
def chainFinding? (x : Context) (id : Nat) : Option Finding :=
  match x.arena.node? id, chain? x id with
  | some n, some (decoder, executor) =>
    some ⟨name, .high, "base64 decoding passed straight to " ++ executor ++
      " - explicit obfuscation",
      n.line, n.column, decoder ++ " -> " ++ executor⟩
  | _, _ => none

/-- The literal of a node. -/
def literal? (a : Arena) (id : Nat) : Option PendingLiteral :=
  match a.node? id with
  | none => none
  | some n => n.literal.map fun v => ⟨v, n.line, n.column⟩

/-- The finding for a literal of high entropy. -/
def score (t : Thresholds Double) (o : Rearrangement) (l : PendingLiteral) : Option Finding :=
  match t.toFloat.scored? floatArithmetic o l.value.toList with
  | none => none
  | some (share, bits) =>
    some ⟨name, .medium,
      "High string entropy (" ++ writeFixed 2 (Double.ofFloat share) ++ ") - possible obfuscation",
      l.line, l.column, "entropy: " ++ writeFixed 2 (Double.ofFloat bits)⟩

/-- The findings for some literals, each of which takes the next order. -/
def scores (t : Thresholds Double) : List Rearrangement → List PendingLiteral → List Finding
  | _, [] => []
  | os, l :: ls => (score t (os.headD {}) l).toList ++ scores t os.tail ls

/-- Looks at a node. -/
def visit (d : Obfuscation) (x : Context) (id : Nat) : Obfuscation :=
  { d with
    pending := d.pending ++ (literal? x.arena id).toList
    findings := d.findings ++ (chainFinding? x id).toList }

/-- Scores the literals that wait. -/
def finalize (d : Obfuscation) : Obfuscation :=
  { d with
    pending := []
    findings := d.findings ++ scores d.thresholds d.orders d.pending
    orders := d.orders.drop d.pending.length }

/-- Forgets literals and findings. -/
def reset (d : Obfuscation) : Obfuscation := { d with pending := [], findings := [] }

end Obfuscation

end PythonAudit
