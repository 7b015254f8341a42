import PythonAudit.Syntax.Arena

/-!
# Parents

* `Parents` records the parent of each node; every entry is written once;
* `Context` is an arena with the parents known so far. `semanticParent?` skips argument lists and
  parentheses.
-/

namespace PythonAudit

namespace Syntax

/-- The parent of each node of an arena, as far as it is known. -/
structure Parents where
  entries : Array (Option Nat)
deriving Inhabited

namespace Parents

/-- No parent is known yet. -/
def unknown (size : Nat) : Parents := ⟨Array.replicate size none⟩

/-- Records a parent. -/
def assign (p : Parents) (child parent : Nat) : Parents :=
  ⟨p.entries.setIfInBounds child (some parent)⟩

/-- Records one parent for several children. -/
def assignAll (p : Parents) (children : List Nat) (parent : Nat) : Parents :=
  children.foldl (fun p c => p.assign c parent) p

/-- The recorded parent of a node. -/
def get? (p : Parents) (id : Nat) : Option Nat := (p.entries[id]?).join

end Parents

/-- An arena with the parents known so far. -/
structure Context where
  arena : Arena
  parents : Parents

namespace Context

/-- The parent of a node. -/
def parent? (x : Context) (id : Nat) : Option Nat := x.parents.get? id

/-- The first `limit` ancestors of a node, nearest first. -/
def ancestorsUpTo (x : Context) : Nat → Nat → List Nat
  | 0, _ => []
  | limit + 1, id =>
    match x.parent? id with
    | none => []
    | some p => p :: x.ancestorsUpTo limit p

/-- The ancestors of a node, nearest first. A parent has a smaller number than its children, so a
node has at most as many ancestors as its number says. -/
def ancestors (x : Context) (id : Nat) : List Nat := x.ancestorsUpTo id id

/-- A kind of node that only groups an expression. -/
def isGrouping (k : Kind) : Bool := k == .argumentList || k == .parenthesizedExpression

/-- The nearest ancestor that does not merely group an expression. -/
def semanticParent? (x : Context) (id : Nat) : Option Nat :=
  (x.ancestors id).find? fun p => !((x.arena.kind? p).any isGrouping)

end Context

end Syntax

end PythonAudit
