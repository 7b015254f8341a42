import PythonAudit.Syntax.Arena

/-!
# Dotted names

An identifier is a dotted name; so is an attribute of a dotted name, and a dotted name in
parentheses.
-/

namespace PythonAudit

namespace Syntax

namespace Arena

/-- The segments of the dotted name that a node spells, last segment first. Every step goes to a
child, so the number of nodes bounds the steps. -/
def segmentsWith (a : Arena) : Nat → Nat → Option (List String)
  | 0, _ => none
  | fuel + 1, id =>
    match a.node? id with
    | none => none
    | some n =>
      match n.kind with
      | .identifier => n.text.map ([·])
      | .attributeAccess =>
        match (a.childBy? id .member).bind a.text?, a.childBy? id .object with
        | some s, some o => (a.segmentsWith fuel o).map (s :: ·)
        | _, _ => none
      | .parenthesizedExpression =>
        match n.children with
        | [c] => a.segmentsWith fuel c
        | _ => none
      | _ => none

/-- The segments of the dotted name that a node spells, in source order. -/
def segments? (a : Arena) (id : Nat) : Option (List String) :=
  (a.segmentsWith a.size id).map List.reverse

/-- The dotted name that a node spells. -/
def qualifiedName? (a : Arena) (id : Nat) : Option String :=
  (a.segments? id).map (String.intercalate ".")

/-- The dotted name of the function that a call calls. -/
def callee? (a : Arena) (id : Nat) : Option String :=
  if a.isKind id .call then (a.childBy? id .function).bind a.qualifiedName? else none

end Arena

end Syntax

end PythonAudit
