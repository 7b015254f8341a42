import PythonAudit.Concrete.Statement

/-!
# Whole programs

`ParseTree.ofText` gives every text a tree. Where the grammar does not accept the text the tree
holds an error node: at the shortest run of tokens whose removal lets the rest be read, or, if no
run will do, at the root.
-/

namespace PythonAudit

namespace Concrete

open Syntax Concrete.Parser

/-! ### Accepted texts -/

/-- A continued line end as a node. -/
def continuationLeaf (extent : Extent) : ParseTree :=
  .node { kind := .lineContinuation, extent } []

/-- The first place of a text that is not blank. -/
def firstPlace (cs : List Char) : Cursor :=
  (Cursor.start cs).skipWhile isBlank

/-- Where a program starts: at its first comment or node, and at the end of a text without them. -/
def programStart (cs : List Char) (nodes : List ParseTree) : Point :=
  let first := firstPlace cs
  match first.rest, nodes with
  | '#' :: _, _ => first.point
  | _, t :: _ => t.extent.start
  | _, [] => first.point

/-- The tree of a text that the grammar accepts. -/
def accepted (cs : List Char) : Except Failure ParseTree :=
  match statements (State.start cs) with
  | .error e => .error e
  | .ok (nodes, s) =>
    let nodes :=
      s.continuations.foldl (fun ns c => ParseTree.placeAmong (continuationLeaf c) ns) nodes
    .ok (.node { kind := .program, extent := ⟨programStart cs nodes, s.cursor.point⟩ } nodes)

/-! ### Faulty texts -/

/-- A node for a fault at a place. -/
def faultAt (place : Point) : ParseTree :=
  .node { kind := .error, extent := ⟨place, place⟩ } []

/-- A token after which an operand has ended. -/
def endsOperand (text : String) : Bool :=
  match text.toList.getLast? with
  | none => false
  | some c =>
    Text.isIdentifierPart c || c == ')' || c == ']' || c == '\x7d' || c == '\'' || c == '"'

/-- Leaving out the tokens from a mark up to the token at which reading failed may mend the text:
the mark does not go on with an operand, or it is spelt like the failing token. -/
def Mark.mayStart (m : Mark) (previous : Option Mark) (failing : List Char) : Bool :=
  !(previous.any fun p => endsOperand p.text) || m.text == operatorAt failing

/-- The latest mark whose tokens can be left out so that the rest is accepted; the trail is given
latest first. -/
def mendable (cs : List Char) (failing : Cursor) : List Mark → Option Mark
  | [] => none
  | m :: ms =>
    if m.text != "\n" && m.mayStart ms.head? failing.rest &&
        (accepted (cs.take m.start.index ++ failing.rest)).isOk then some m
    else mendable cs failing ms

/-- The tree of a text that the grammar does not accept. -/
def faulty (cs : List Char) (e : Failure) : ParseTree :=
  let start := (firstPlace cs).point
  let stop := Point.origin.stepAll cs
  match mendable cs e.place e.trail with
  | some m => .node { kind := .program, extent := ⟨start, stop⟩ } [faultAt m.start.point]
  | none => .node { kind := .error, extent := ⟨start, stop⟩ } []

end Concrete

/-- The syntax tree of a text. -/
def Syntax.ParseTree.ofText (text : String) : Syntax.ParseTree :=
  match Concrete.accepted text.toList with
  | .ok t => t
  | .error e => Concrete.faulty text.toList e

end PythonAudit
