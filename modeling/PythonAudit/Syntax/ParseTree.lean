import PythonAudit.Syntax.Kind
import PythonAudit.Text.Point

/-!
# Concrete syntax trees

* `Label` says what one node is: its kind, whether the grammar names it, whether it was supplied to
  mend a faulty text, its role in its parent, where it stands, and the text of a token;
* `ParseTree` is a label with the children in source order;
* `ParseTree.faulty` tells whether some node of the tree is an error or a supplied token;
* `ParseTree.place` puts a node that may stand between any two tokens into the smallest node that
  spans it.
-/

namespace PythonAudit

namespace Syntax

/-- What a node is, apart from its children. -/
structure Label where
  kind : Kind
  named : Bool := true
  missing : Bool := false
  field : Option Field := none
  extent : Extent
  text : String := ""
deriving DecidableEq, Repr, Inhabited

/-- The written name of the node's kind. -/
def Label.kindName (l : Label) : String :=
  if l.kind = .token then l.text else l.kind.written

/-- The node stands for a fault of the text. -/
def Label.isFault (l : Label) : Bool :=
  l.missing || l.kind == .error

/-- An ordered tree of labelled nodes. -/
inductive ParseTree where
  | node (label : Label) (children : List ParseTree)
deriving Repr, Inhabited

namespace ParseTree

/-- The label of the root. -/
def label : ParseTree → Label
  | node l _ => l

/-- The children of the root, in source order. -/
def children : ParseTree → List ParseTree
  | node _ cs => cs

/-- The kind of the root. -/
def kind (t : ParseTree) : Kind := t.label.kind

/-- Where the tree stands. -/
def extent (t : ParseTree) : Extent := t.label.extent

/-- The same tree in a given role. -/
def withField (f : Field) : ParseTree → ParseTree
  | node l cs => node { l with field := some f } cs

@[simp]
theorem label_node (l : Label) (cs : List ParseTree) : (node l cs).label = l := rfl

@[simp]
theorem children_node (l : Label) (cs : List ParseTree) : (node l cs).children = cs := rfl

mutual

/-- Some node of the tree stands for a fault. -/
def faulty : ParseTree → Bool
  | node l cs => l.isFault || anyFaulty cs

/-- Some node of some tree stands for a fault. -/
def anyFaulty : List ParseTree → Bool
  | [] => false
  | t :: ts => t.faulty || anyFaulty ts

end

mutual

/-- Puts a node into the smallest node that spans it, in source order. -/
def place (leaf : ParseTree) : ParseTree → ParseTree
  | node l cs => node l (placeAmong leaf cs)

/-- Puts a node into the one of several siblings that spans it, or between two of them. -/
def placeAmong (leaf : ParseTree) : List ParseTree → List ParseTree
  | [] => [leaf]
  | t :: ts =>
    if leaf.extent.within t.extent then place leaf t :: ts
    else if leaf.extent.start.before t.extent.start then leaf :: t :: ts
    else t :: placeAmong leaf ts

end

end ParseTree

end Syntax

end PythonAudit
