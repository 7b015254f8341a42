import PythonAudit.Concrete.Parser

/-!
# The recursive parts of expressions

`Goal` names the parts of the expression grammar that refer to each other. A `floor` is the binding
strength of the construct that waits for its last operand: an operator is taken only if it binds
more tightly, or just as tightly and to the right. `Level` lists the strengths.
-/

namespace PythonAudit

namespace Concrete

open Syntax Concrete.Parser

/-! ### Binding strengths -/

namespace Level

/-- The body of a lambda takes everything that follows. -/
abbrev body : Nat := 0

/-- Conditional expressions, to the right. -/
abbrev conditional : Nat := 1

/-- Named expressions, `as` and the clauses of comprehensions. -/
abbrev clause : Nat := 2

/-- Disjunction. -/
abbrev disjunction : Nat := 3

/-- Conjunction. -/
abbrev conjunction : Nat := 4

/-- Negation. -/
abbrev negation : Nat := 5

/-- Unary signs and `await`. -/
abbrev sign : Nat := 13

/-- Powers, to the right. -/
abbrev power : Nat := 14

/-- Attributes, subscripts and calls. -/
abbrev trailer : Nat := 15

end Level

/-- The strength of a binary operator. -/
def binaryLevel (o : String) : Option Nat :=
  if o = "|" then some 7
  else if o = "&" then some 8
  else if o = "^" then some 9
  else if o = "<<" || o = ">>" then some 10
  else if o = "+" || o = "-" then some 11
  else if o = "*" || o = "@" || o = "/" || o = "%" || o = "//" then some 12
  else if o = "**" then some Level.power
  else none

/-- The comparison operators that are no words. -/
def comparisonOperators : List String := ["<", "<=", "==", "!=", ">=", ">", "<>"]

/-! ### Goals -/

/-- A recursive part of the grammar: what to read, which signs are wanted at its first token, and
what may follow it. -/
inductive Goal where
  | expression (floor : Nat) (lead : Wanted) (follow : Follow)
  | primary (floor : Nat) (lead : Wanted) (follow : Follow)
  | interpolation (kind : Kind)
  | typeHint (lead : Wanted) (follow : Follow) (constrained : Bool)
  | pattern (lead : Wanted)
deriving Inhabited

/-! ### Assignment targets -/

mutual

/-- The target that an expression stands for when it is assigned to. -/
def toTarget : ParseTree → Option ParseTree
  | .node l cs =>
    match l.kind with
    | .identifier => some (.node l cs)
    | .subscript => some (.node l cs)
    | .attributeAccess => some (.node l cs)
    | .listSplat =>
      match cs with
      | [c] =>
        if c.kind = .identifier || c.kind = .subscript || c.kind = .attributeAccess then
          some (.node { l with kind := .listSplatPattern } cs)
        else none
      | _ => none
    | .tuple => (toTargets cs).map (.node { l with kind := .tuplePattern })
    | .parenthesizedExpression => (toTargets cs).map (.node { l with kind := .tuplePattern })
    | .list => (toTargets cs).map (.node { l with kind := .listPattern })
    | _ => none

/-- The targets that several expressions stand for. -/
def toTargets : List ParseTree → Option (List ParseTree)
  | [] => some []
  | t :: ts =>
    match toTarget t, toTargets ts with
    | some t, some ts => some (t :: ts)
    | _, _ => none

end

end Concrete

end PythonAudit
