import PythonAudit.Syntax.Kind

/-!
# Arenas

An `Arena` holds the nodes of a tree in one array, each with the numbers of its children. Number 0
is the root.
-/

namespace PythonAudit

namespace Syntax

/-- A node of an arena: its kind, its line from one and its byte column from zero, its role in its
parent, its children, the text of an identifier, and the value of a string literal. -/
structure Node where
  kind : Kind
  line : Nat
  column : Nat
  field : Option Field := none
  children : List Nat := []
  text : Option String := none
  literal : Option String := none
deriving DecidableEq, Repr, Inhabited

/-- A tree as an array of nodes. -/
structure Arena where
  nodes : Array Node
deriving Inhabited

namespace Arena

/-- The arena without nodes. -/
def empty : Arena := ⟨#[]⟩

/-- The number of nodes. -/
def size (a : Arena) : Nat := a.nodes.size

/-- The node with a given number. -/
def node? (a : Arena) (id : Nat) : Option Node := a.nodes[id]?

/-- The kind of a node. -/
def kind? (a : Arena) (id : Nat) : Option Kind := (a.node? id).map Node.kind

/-- A node is of the given kind. -/
def isKind (a : Arena) (id : Nat) (k : Kind) : Bool := a.kind? id == some k

/-- The children of a node. -/
def children (a : Arena) (id : Nat) : List Nat :=
  match a.node? id with
  | some n => n.children
  | none => []

/-- The text of an identifier. -/
def text? (a : Arena) (id : Nat) : Option String := (a.node? id).bind Node.text

/-- The first child in a given role. -/
def childBy? (a : Arena) (id : Nat) (f : Field) : Option Nat :=
  (a.children id).find? fun c => (a.node? c).any fun n => n.field == some f

/-- Adds a node after the others, and puts it last among the children of its owner. -/
def push (a : Arena) (owner : Option Nat) (n : Node) : Arena :=
  let nodes := a.nodes.push n
  match owner with
  | none => ⟨nodes⟩
  | some o => ⟨nodes.modify o fun m => { m with children := m.children ++ [a.size] }⟩

end Arena

end Syntax

end PythonAudit
