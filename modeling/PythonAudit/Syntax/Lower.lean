import PythonAudit.Literal.Form
import PythonAudit.Syntax.Arena
import PythonAudit.Syntax.ParseTree

/-!
# From trees to arenas

`Arena.ofTree` keeps the named nodes of a tree, in pre-order. Comments and the delimiters of strings
are left out. On the way every string literal gets its value: a plain string or a run of plain
strings its whole text, and a format string one value for each of its segments.
-/

namespace PythonAudit

namespace Syntax

open Literal

/-! ### String literals in trees -/

/-- The form of a string, from its opening. -/
def ParseTree.form? (t : ParseTree) : Option Form :=
  (t.children.find? fun c => c.label.named && c.kind == .stringStart).map fun c =>
    Form.ofOpening c.label.text

/-- The characters between the quotes of a string, without its interpolations. -/
def ParseTree.body (t : ParseTree) : String :=
  String.join ((t.children.filter fun c => c.label.named && c.kind == .stringContent).map
    fun c => c.label.text)

/-- The text of a string that is neither bytes nor a format string. -/
def ParseTree.plainText? (t : ParseTree) : Option String :=
  match t.form? with
  | none => none
  | some f => if f.bytes || f.format then none else some (f.decode t.body)

/-- The joined texts of some trees; nothing when one of them has none. -/
def joinedText? : List ParseTree → Option String
  | [] => some ""
  | t :: ts =>
    match t.plainText?, joinedText? ts with
    | some s, some r => some (s ++ r)
    | _, _ => none

/-- How the literal value of a node is found: from the node itself, given by its parent, or not at
all because the node is part of a literal that already has a value. -/
inductive Reading where
  | open
  | given (value : String)
  | covered
deriving DecidableEq, Repr, Inhabited

/-- The literal value that a node has by itself. -/
def ParseTree.ownValue? (t : ParseTree) : Option String :=
  match t.kind with
  | .string => t.plainText?
  | .concatenatedString =>
    joinedText? (t.children.filter fun c => c.label.named && c.kind == .string)
  | _ => none

/-- The literal value of a node, and how the values of its children are found. -/
def Reading.resolve (r : Reading) (t : ParseTree) : Option String × Reading :=
  match r with
  | .covered => (none, .covered)
  | .given v => (some v, .covered)
  | .open =>
    match t.ownValue? with
    | some v => (some v, .covered)
    | none => (none, .open)

/-- How the value of a child is found, when the child is kept. -/
def Reading.ofChild (inherited : Reading) (parent child : ParseTree) : Option Reading :=
  if !child.label.named || child.kind == .comment || parent.kind == .stringContent then none
  else if parent.kind != .string then some inherited
  else
    match child.kind with
    | .interpolation => some .open
    | .stringContent =>
      match parent.form? with
      | none => none
      | some f =>
        if !f.format || inherited == .covered then none
        else some (.given (f.decode (undoubleBraces child.label.text)))
    | _ => none

/-! ### Flattening -/

mutual

/-- The number of nodes of a tree. -/
def ParseTree.size : ParseTree → Nat
  | .node _ cs => ParseTree.sizes cs + 1

/-- The number of nodes of several trees. -/
def ParseTree.sizes : List ParseTree → Nat
  | [] => 0
  | t :: ts => t.size + ParseTree.sizes ts

end

/-- A tree that waits to be flattened: the node that owns it and how its value is found. -/
structure Pending where
  tree : ParseTree
  owner : Option Nat := none
  reading : Reading := .open
deriving Inhabited

/-- The children of a node that wait after it. -/
def Pending.ofChildren (parent : ParseTree) (id : Nat) (inherited : Reading) :
    List ParseTree → List Pending
  | [] => []
  | c :: cs =>
    match inherited.ofChild parent c with
    | some r => ⟨c, some id, r⟩ :: Pending.ofChildren parent id inherited cs
    | none => Pending.ofChildren parent id inherited cs

/-- The number of nodes that wait. -/
def Pending.total : List Pending → Nat
  | [] => 0
  | p :: ps => p.tree.size + Pending.total ps

/-- The node of a tree, still without children. -/
def Pending.toNode (p : Pending) : Node :=
  { kind := p.tree.kind
    line := p.tree.extent.start.row + 1
    column := p.tree.extent.start.column
    field := if p.owner.isSome then p.tree.label.field else none
    text := if p.tree.kind == .identifier then some p.tree.label.text else none
    literal := (p.reading.resolve p.tree).1 }

theorem Pending.total_ofChildren_le (parent : ParseTree) (id : Nat) (inherited : Reading)
    (cs : List ParseTree) :
    Pending.total (Pending.ofChildren parent id inherited cs) ≤ ParseTree.sizes cs := by
  induction cs with
  | nil => simp [Pending.ofChildren, Pending.total, ParseTree.sizes]
  | cons c cs ih =>
    simp only [Pending.ofChildren]
    split
    · simp only [Pending.total, ParseTree.sizes]
      omega
    · simp only [ParseTree.sizes]
      omega

theorem Pending.total_append (ps qs : List Pending) :
    Pending.total (ps ++ qs) = Pending.total ps + Pending.total qs := by
  induction ps with
  | nil => simp [Pending.total]
  | cons p ps ih => simp only [List.cons_append, Pending.total, ih, Nat.add_assoc]

/-- Flattens the trees that wait, each before its children and those before the others. -/
def Arena.flatten (ps : List Pending) (a : Arena) : Arena :=
  match ps with
  | [] => a
  | p :: ps =>
    let inherited := (p.reading.resolve p.tree).2
    Arena.flatten (Pending.ofChildren p.tree a.size inherited p.tree.children ++ ps)
      (a.push p.owner p.toNode)
termination_by Pending.total ps
decreasing_by
  have h := Pending.total_ofChildren_le p.tree a.size (p.reading.resolve p.tree).2 p.tree.children
  rw [Pending.total_append]
  cases ht : p.tree with
  | node l cs =>
    simp only [ht, ParseTree.children, Pending.total, ParseTree.size] at h ⊢
    omega

/-- The arena of a tree. -/
def Arena.ofTree (t : ParseTree) : Arena :=
  Arena.flatten [{ tree := t }] Arena.empty

end Syntax

end PythonAudit
