import PythonAudit.Concrete.Program
import PythonAudit.Strict.Statement
import PythonAudit.Syntax.Lower
import PythonAudit.Text.Locate

/-!
# From source text to arenas

`parse` accepts a text when its tree has no fault and the text is a Python 3 program. Otherwise it
answers with the first fault of the tree in pre-order, or else with the fault of the program.
-/

namespace PythonAudit

namespace Syntax

/-- Why a text is no program, with the line from one and the column from zero. -/
structure ParseError where
  message : String
  line : Nat
  column : Nat
deriving DecidableEq, Repr, Inhabited

/-- The error in words. -/
def ParseError.written (e : ParseError) : String :=
  e.message ++ " (line " ++ Nat.repr e.line ++ ", column " ++ Nat.repr e.column ++ ")"

/-- A message at the start of a node. -/
def Label.error (l : Label) (message : String) : ParseError :=
  ⟨message, l.extent.start.row + 1, l.extent.start.column⟩

/-- The error that a faulty node stands for. -/
def Label.faultError (l : Label) : ParseError :=
  if l.missing then l.error ("missing '" ++ l.kindName ++ "'") else l.error "invalid syntax"

theorem ParseTree.sizes_append (ts us : List ParseTree) :
    ParseTree.sizes (ts ++ us) = ParseTree.sizes ts + ParseTree.sizes us := by
  induction ts with
  | nil => simp [ParseTree.sizes]
  | cons t ts ih => simp only [List.cons_append, ParseTree.sizes, ih, Nat.add_assoc]

/-- The first faulty node of several trees in pre-order. Trees without a fault are passed as a
whole. -/
def ParseTree.firstFault? (ts : List ParseTree) : Option Label :=
  match ts with
  | [] => none
  | .node l cs :: ts =>
    if l.isFault then some l
    else if (ParseTree.node l cs).faulty then ParseTree.firstFault? (cs ++ ts)
    else ParseTree.firstFault? ts
termination_by ParseTree.sizes ts
decreasing_by
  · rw [ParseTree.sizes_append]
    simp only [ParseTree.sizes, ParseTree.size]
    omega
  · simp only [ParseTree.sizes, ParseTree.size]
    omega

/-- The error of a faulty tree. -/
def ParseTree.error (t : ParseTree) : ParseError :=
  match ParseTree.firstFault? [t] with
  | some l => l.faultError
  | none => t.label.error "invalid syntax"

/-- The error of a fault of the text at a byte offset. -/
def errorAt (text : String) (l : Strict.Located) : ParseError :=
  let (line, column) := Text.locate text l.offset
  ⟨l.fault.message, line, column⟩

/-- The arena of a program. -/
def parse (text : String) : Except ParseError Arena :=
  let t := ParseTree.ofText text
  if t.faulty then .error t.error
  else
    match Strict.checkProgram text.toList with
    | .error l => .error (errorAt text l)
    | .ok () => .ok (Arena.ofTree t)

end Syntax

end PythonAudit
