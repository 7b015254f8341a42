import PythonAudit.Concrete.Pattern
import PythonAudit.Concrete.Signature

/-!
# The expression grammar

`Goal.step` reads one level of a goal and `Goal.parse` nests it as deep as the text can go.
-/

namespace PythonAudit

namespace Concrete

open Syntax Concrete.Parser

/-- An expression: a negation, a lambda, a named expression or comparisons, and the operators after
it. -/
def expression (self : Goal → Parser ParseTree) (floor : Nat) (lead : Wanted) (follow : Follow) :
    Parser ParseTree := do
  let a ← ahead lead
  let first ←
    if a.isWord "not" then do
      let word ← takeWord a
      let e ← self (.expression Level.negation operand follow)
      nodeFrom .notOperator word.extent.start [e.withField .argument]
    else if a.isWord "lambda" then lambda self lead follow
    else if ← namedBy a follow ":=" then do
      let name ← takeWord a
      let b ← ahead follow.wanted
      let _ ← take b 2
      let value ← self (.expression Level.clause operand follow)
      nodeFrom .namedExpression name.extent.start
        [(name.leaf .identifier).withField .name, value.withField .value]
    else comparisons self lead follow
  expressionTail self floor follow first

/-- One level of a goal. -/
def Goal.step (self : Goal → Parser ParseTree) : Goal → Parser ParseTree
  | .expression floor lead follow => Concrete.expression self floor lead follow
  | .primary floor lead follow => Concrete.primary self floor lead follow
  | .interpolation kind => Concrete.interpolation self kind
  | .typeHint lead follow constrained => Concrete.typeHint self lead follow constrained
  | .pattern lead => Concrete.casePattern self lead

/-- Reads a goal to a bounded depth. -/
def Goal.parseWith : Nat → Goal → Parser ParseTree
  | 0, _ => fun s => .error ⟨s.cursor, s.trail⟩
  | depth + 1, g => g.step (Goal.parseWith depth)

/-- Reads a goal. Between two characters of the text the goals nest less than eight deep. -/
def Goal.parse (g : Goal) : Parser ParseTree := do
  Goal.parseWith (8 * (← get).bound) g

end Concrete

end PythonAudit
