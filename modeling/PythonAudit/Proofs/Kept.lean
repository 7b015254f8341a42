import PythonAudit.Proofs.PreOrder
import PythonAudit.Syntax.Lower

/-!
# What an arena keeps of a tree

`Arena.ofTree` works through a stack of trees that wait. Here the same arena is found by recursion
on the tree.

* `Kept` is the part of a tree that is kept, each node with the tree it comes from and how its value
  is found; `ParseTree.kept` takes it out of a tree;
* `Kept.preorder` lists the kept nodes, parents before children and siblings in order, and
  `Kept.toNode` writes one of them down as the node with a given number;
* `ofTree_eq` says that the arena of a tree lists its kept nodes in this way;
* `preOrdered_ofTree` says that it is in pre-order.
-/

namespace PythonAudit

namespace Syntax

/-- The numbers of siblings whose trees have the given sizes, when the first one has the number
`first`. -/
def numbersFrom (first : Nat) : List Nat → List Nat
  | [] => []
  | n :: ns => first :: numbersFrom (first + n) ns

/-- A tree that stands in the first line of a text. -/
def ParseTree.oneLine (k : Kind) (start stop : Nat) (text : String) (cs : List ParseTree) :
    ParseTree :=
  .node { kind := k, extent := ⟨⟨0, start⟩, ⟨0, stop⟩⟩, text := text } cs

/-- The kept part of a tree: its kept nodes, each with the tree it comes from and how its value is
found. -/
inductive Kept where
  | node (tree : ParseTree) (reading : Reading) (children : List Kept)

namespace Kept

/-- The tree that a kept node comes from. -/
def tree : Kept → ParseTree
  | node t _ _ => t

/-- How the value of a kept node is found. -/
def reading : Kept → Reading
  | node _ r _ => r

/-- The kept children. -/
def children : Kept → List Kept
  | node _ _ ks => ks

/-- The literal value of a kept node. -/
def literal (k : Kept) : Option String := (k.reading.resolve k.tree).1

@[simp] theorem tree_node (t : ParseTree) (r : Reading) (ks : List Kept) : (node t r ks).tree = t :=
  rfl

@[simp] theorem reading_node (t : ParseTree) (r : Reading) (ks : List Kept) :
    (node t r ks).reading = r := rfl

@[simp] theorem children_node (t : ParseTree) (r : Reading) (ks : List Kept) :
    (node t r ks).children = ks := rfl

mutual

/-- The number of kept nodes. -/
def size : Kept → Nat
  | node _ _ ks => sizes ks + 1

/-- The number of kept nodes of several trees. -/
def sizes : List Kept → Nat
  | [] => 0
  | k :: ks => k.size + sizes ks

end

mutual

/-- All kept nodes in pre-order. -/
def preorder : Kept → List Kept
  | node t r ks => node t r ks :: preorders ks

/-- All kept nodes of several trees in pre-order. -/
def preorders : List Kept → List Kept
  | [] => []
  | k :: ks => k.preorder ++ preorders ks

end

/-- A kept node as the node with a given number. Its children get the numbers that follow. -/
def toNode (number : Nat) (k : Kept) : Node :=
  { kind := k.tree.kind
    line := k.tree.extent.start.row + 1
    column := k.tree.extent.start.column
    field := if number = 0 then none else k.tree.label.field
    children := numbersFrom (number + 1) (k.children.map size)
    text := if k.tree.kind == .identifier then some k.tree.label.text else none
    literal := k.literal }

/-- Kept nodes as nodes with the numbers from `first` on. -/
def layout (first : Nat) (ks : List Kept) : List Node :=
  ks.mapIdx fun i k => k.toNode (first + i)

end Kept

mutual

/-- The kept part of a tree whose value is found in a given way. -/
def ParseTree.kept (r : Reading) : ParseTree → Kept
  | .node l cs =>
    .node (.node l cs) r (ParseTree.keptAmong (.node l cs) (r.resolve (.node l cs)).2 cs)

/-- The kept parts of some children of a tree. -/
def ParseTree.keptAmong (parent : ParseTree) (inherited : Reading) : List ParseTree → List Kept
  | [] => []
  | c :: cs =>
    match inherited.ofChild parent c with
    | some r => c.kept r :: ParseTree.keptAmong parent inherited cs
    | none => ParseTree.keptAmong parent inherited cs

end

theorem ParseTree.kept_eq (r : Reading) (t : ParseTree) :
    t.kept r = .node t r (ParseTree.keptAmong t (r.resolve t).2 t.children) := by
  cases t with
  | node l cs => rw [ParseTree.kept, ParseTree.children_node]

@[simp] theorem ParseTree.tree_kept (r : Reading) (t : ParseTree) : (t.kept r).tree = t := by
  rw [ParseTree.kept_eq, Kept.tree_node]

@[simp] theorem ParseTree.reading_kept (r : Reading) (t : ParseTree) : (t.kept r).reading = r := by
  rw [ParseTree.kept_eq, Kept.reading_node]

/-! ### Sizes and numbers -/

namespace Kept

mutual

@[simp] theorem length_preorder : (k : Kept) → k.preorder.length = k.size
  | node t r ks => by
    rw [preorder, size, List.length_cons, length_preorders ks]

@[simp] theorem length_preorders : (ks : List Kept) → (preorders ks).length = sizes ks
  | [] => rfl
  | k :: ks => by
    rw [preorders, sizes, List.length_append, length_preorder k, length_preorders ks]

end

theorem size_pos (k : Kept) : 0 < k.size := by
  cases k with
  | node t r ks =>
    rw [size]
    omega

theorem layout_append (first : Nat) (ks ls : List Kept) :
    layout first (ks ++ ls) = layout first ks ++ layout (first + ks.length) ls := by
  rw [layout, List.mapIdx_append, layout, layout]
  congr 2
  funext i k
  rw [Nat.add_assoc, Nat.add_comm i]

@[simp] theorem length_layout (first : Nat) (ks : List Kept) :
    (layout first ks).length = ks.length :=
  List.length_mapIdx

end Kept

/-! ### The stack loop -/

namespace Arena

/-- The arena of a list of nodes. -/
def ofNodes (ns : List Node) : Arena := ⟨ns.toArray⟩

/-- Gives a node more children, behind the ones it has. -/
def adopt (owner : Nat) (cs : List Nat) (ns : List Node) : List Node :=
  ns.modify owner fun n => { n with children := n.children ++ cs }

@[simp] theorem size_ofNodes (ns : List Node) : (ofNodes ns).size = ns.length := rfl

@[simp] theorem length_adopt (owner : Nat) (cs : List Nat) (ns : List Node) :
    (adopt owner cs ns).length = ns.length := List.length_modify ..

theorem adopt_append_left {owner : Nat} {ns : List Node} (h : owner < ns.length) (cs : List Nat)
    (ms : List Node) : adopt owner cs (ns ++ ms) = adopt owner cs ns ++ ms := by
  induction ns generalizing owner with
  | nil => exact absurd h (Nat.not_lt_zero owner)
  | cons n ns ih =>
    cases owner with
    | zero => rfl
    | succ o =>
      have ho := ih (Nat.lt_of_succ_lt_succ h)
      simp only [adopt, List.cons_append, List.modify_succ_cons] at ho ⊢
      rw [ho]

theorem adopt_last (ns : List Node) (n : Node) (cs : List Nat) :
    adopt ns.length cs (ns ++ [n]) = ns ++ [{ n with children := n.children ++ cs }] := by
  induction ns with
  | nil => rfl
  | cons m ns ih =>
    simp only [adopt, List.length_cons, List.cons_append, List.modify_succ_cons] at ih ⊢
    rw [ih]

@[simp] theorem adopt_nil (owner : Nat) (ns : List Node) : adopt owner [] ns = ns := by
  simp [adopt, show (fun n : Node => n) = id from rfl]

theorem adopt_adopt (owner : Nat) (cs ds : List Nat) (ns : List Node) :
    adopt owner ds (adopt owner cs ns) = adopt owner (cs ++ ds) ns := by
  rw [adopt, adopt, List.modify_modify_eq, adopt]
  congr 1
  funext n
  simp

theorem push_root (ns : List Node) (n : Node) : (ofNodes ns).push none n = ofNodes (ns ++ [n]) := by
  simp [push, ofNodes]

theorem push_child {owner : Nat} {ns : List Node} (h : owner < ns.length) (n : Node) :
    (ofNodes ns).push (some owner) n = ofNodes (adopt owner [ns.length] ns ++ [n]) := by
  rw [← adopt_append_left h]
  simp [push, ofNodes, adopt, size]

theorem flatten_cons (p : Pending) (ps : List Pending) (a : Arena) :
    flatten (p :: ps) a =
      flatten (Pending.ofChildren p.tree a.size (p.reading.resolve p.tree).2 p.tree.children ++ ps)
        (a.push p.owner p.toNode) := by
  rw [flatten]

end Arena

theorem Kept.layout_preorder (first : Nat) (k : Kept) :
    Kept.layout first k.preorder =
      k.toNode first :: Kept.layout (first + 1) (Kept.preorders k.children) := by
  cases k with
  | node t r ks =>
    rw [Kept.preorder, ← List.singleton_append, Kept.layout_append]
    rfl

/-- A node with its children is the kept node, when the root alone has no owner. -/
theorem Pending.toNode_adopt (p : Pending) (number : Nat) (h : p.owner.isSome = true ↔ number ≠ 0) :
    { p.toNode with
      children := p.toNode.children ++
        numbersFrom (number + 1) ((p.tree.kept p.reading).children.map Kept.size) } =
      (p.tree.kept p.reading).toNode number := by
  have hfield : (if p.owner.isSome then p.tree.label.field else none) =
      if number = 0 then none else p.tree.label.field := by
    by_cases hn : number = 0
    · rw [if_pos hn, if_neg (fun hs => h.1 hs hn)]
    · rw [if_neg hn, if_pos (h.2 hn)]
  simp [Pending.toNode, Kept.toNode, Kept.literal, hfield]

namespace Arena

/-- A node that has adopted its children, with what is below it behind it, is a kept tree put
down. -/
theorem adopt_layout (p : Pending) (ns : List Node) (h : p.owner.isSome = true ↔ ns.length ≠ 0) :
    adopt ns.length (numbersFrom (ns.length + 1) ((p.tree.kept p.reading).children.map Kept.size))
        (ns ++ [p.toNode]) ++
      Kept.layout (ns.length + 1) (Kept.preorders (p.tree.kept p.reading).children) =
      ns ++ Kept.layout ns.length (p.tree.kept p.reading).preorder := by
  rw [adopt_last, Pending.toNode_adopt p ns.length h, Kept.layout_preorder, List.append_assoc,
    List.singleton_append]

mutual

/-- Flattening a tree that waits behind its owner puts down its kept nodes, and its owner adopts
it. -/
theorem flatten_tree :
    (t : ParseTree) → ∀ (r : Reading) (o : Nat) (ps : List Pending) (ns : List Node),
    o < ns.length →
      flatten (⟨t, some o, r⟩ :: ps) (ofNodes ns) =
        flatten ps (ofNodes (adopt o [ns.length] ns ++ Kept.layout ns.length (t.kept r).preorder))
  | .node l cs, r, o, ps, ns, ho => by
    have hroot : (some o).isSome = true ↔ (adopt o [ns.length] ns).length ≠ 0 := by
      simp only [Option.isSome_some, true_iff, length_adopt]
      omega
    -- the children of the tree wait with the node just put down as their owner
    have hlast : ns.length <
        (adopt o [ns.length] ns ++ [Pending.toNode ⟨.node l cs, some o, r⟩]).length := by
      simp
    have hput := adopt_layout ⟨.node l cs, some o, r⟩ (adopt o [ns.length] ns) hroot
    have hchildren :=
      flatten_children cs (.node l cs) (r.resolve (.node l cs)).2 ns.length ps _ hlast
    simp only [length_adopt, ParseTree.kept, Kept.children_node] at hput
    simp only [List.length_append, length_adopt, List.length_singleton] at hchildren
    rw [flatten_cons, push_child ho, size_ofNodes, ParseTree.children_node, hchildren, hput,
      ParseTree.kept]

/-- Flattening the kept children of a node puts them down in order, and the node adopts them all. -/
theorem flatten_children :
    (cs : List ParseTree) → ∀ (parent : ParseTree) (inherited : Reading) (o : Nat)
    (ps : List Pending) (ns : List Node), o < ns.length →
      flatten (Pending.ofChildren parent o inherited cs ++ ps) (ofNodes ns) =
        flatten ps (ofNodes
          (adopt o (numbersFrom ns.length ((ParseTree.keptAmong parent inherited cs).map Kept.size))
            ns ++
            Kept.layout ns.length (Kept.preorders (ParseTree.keptAmong parent inherited cs))))
  | [], parent, inherited, o, ps, ns, ho => by
    simp [Pending.ofChildren, ParseTree.keptAmong, numbersFrom, Kept.preorders, Kept.layout,
      adopt_nil]
  | c :: cs, parent, inherited, o, ps, ns, ho => by
    rw [Pending.ofChildren, ParseTree.keptAmong]
    cases hr : inherited.ofChild parent c with
    | none => exact flatten_children cs parent inherited o ps ns ho
    | some r =>
      have hlen : (adopt o [ns.length] ns ++ Kept.layout ns.length (c.kept r).preorder).length =
          ns.length + (c.kept r).size := by
        simp
      -- the rest starts behind the kept nodes of `c`, with `c` adopted already
      have hrest := flatten_children cs parent inherited o ps
        (adopt o [ns.length] ns ++ Kept.layout ns.length (c.kept r).preorder) (by omega)
      rw [hlen, adopt_append_left (by rwa [length_adopt]), adopt_adopt] at hrest
      simp only [List.cons_append, List.map_cons, numbersFrom, Kept.preorders]
      rw [flatten_tree c r o _ ns ho, hrest, Kept.layout_append, Kept.length_preorder,
        List.append_assoc, List.singleton_append]

end

/-- The arena of a tree lists its kept nodes in pre-order. -/
theorem ofTree_eq (t : ParseTree) :
    ofTree t = ofNodes (Kept.layout 0 (t.kept .open).preorder) := by
  have hput := adopt_layout { tree := t } [] (by simp)
  have hchildren := flatten_children t.children t (Reading.open.resolve t).2 0 []
    [Pending.toNode { tree := t }] Nat.one_pos
  simp only [List.length_nil, List.nil_append, Nat.zero_add, ParseTree.kept_eq .open t,
    Kept.children_node] at hput
  rw [List.length_singleton, hput, ← ParseTree.kept_eq] at hchildren
  rw [ofTree, flatten_cons, show Arena.empty = ofNodes [] from rfl, push_root, List.nil_append,
    size_ofNodes, List.length_nil, hchildren, flatten]

/-- The node of a number is the kept node with that place in pre-order. -/
theorem node?_ofTree (t : ParseTree) (i : Nat) :
    (ofTree t).node? i = ((t.kept .open).preorder[i]?).map (Kept.toNode i) := by
  rw [ofTree_eq, node?, ofNodes, List.getElem?_toArray, Kept.layout, List.getElem?_mapIdx]
  simp only [Nat.zero_add]

@[simp] theorem size_ofTree (t : ParseTree) : (ofTree t).size = (t.kept .open).size := by
  rw [ofTree_eq, size_ofNodes, Kept.length_layout, Kept.length_preorder]

end Arena

/-! ### Places in pre-order -/

namespace Kept

theorem preorder_zero (k : Kept) : k.preorder[0]? = some k := by
  cases k with
  | node t r ks => rw [preorder, List.getElem?_cons_zero]

mutual

/-- Everything below a node follows it at once. -/
theorem preorder_getElem?_add : (k : Kept) → ∀ {i j : Nat} {k' : Kept}, k.preorder[i]? = some k' →
    j < k'.size → k.preorder[i + j]? = k'.preorder[j]?
  | node t r ks, 0, j, k', hi, hj => by
    rw [preorder_zero, Option.some.injEq] at hi
    rw [← hi, Nat.zero_add]
  | node t r ks, i + 1, j, k', hi, hj => by
    rw [preorder, List.getElem?_cons_succ] at hi
    rw [preorder, Nat.add_right_comm, List.getElem?_cons_succ]
    exact preorders_getElem?_add ks hi hj

theorem preorders_getElem?_add : (ks : List Kept) → ∀ {i j : Nat} {k' : Kept},
    (preorders ks)[i]? = some k' → j < k'.size → (preorders ks)[i + j]? = k'.preorder[j]?
  | [], i, j, k', hi, hj => by
    rw [preorders, List.getElem?_nil] at hi
    cases hi
  | k :: ks, i, j, k', hi, hj => by
    rw [preorders] at hi ⊢
    by_cases hk : i < k.preorder.length
    · rw [List.getElem?_append_left hk] at hi
      have hin := preorder_getElem?_add k hi hj
      have hsome : i + j < k.preorder.length := by
        by_contra hle
        rw [List.getElem?_eq_none (by omega),
          List.getElem?_eq_getElem (by rwa [length_preorder])] at hin
        cases hin
      rw [List.getElem?_append_left hsome, hin]
    · rw [List.getElem?_append_right (by omega)] at hi
      rw [List.getElem?_append_right (by omega), Nat.sub_add_comm (by omega)]
      exact preorders_getElem?_add ks hi hj

end

/-- The number of kept nodes from a place in pre-order on that belong to the node there. -/
def lengthAt (k : Kept) (i : Nat) : Nat := ((k.preorder[i]?).map size).getD 0

theorem lengthAt_eq {k k' : Kept} {i : Nat} (h : k.preorder[i]? = some k') :
    k.lengthAt i = k'.size := by
  rw [lengthAt, h, Option.map_some, Option.getD_some]

/-- Trees that stand in pre-order from a place on are found at the numbers of siblings. -/
theorem numbersFrom_spec (k : Kept) (ks : List Kept) (first : Nat)
    (h : ∀ j, j < sizes ks → k.preorder[first + j]? = (preorders ks)[j]?) :
    Tiles k.lengthAt first (numbersFrom first (ks.map size)) (first + sizes ks) ∧
      (numbersFrom first (ks.map size)).map (k.preorder[·]?) = ks.map some := by
  induction ks generalizing first with
  | nil => exact ⟨rfl, rfl⟩
  | cons c cs ih =>
    have hpos := c.size_pos
    have hhead : k.preorder[first]? = some c := by
      have h0 := h 0 (by rw [sizes]; omega)
      rw [preorders, List.getElem?_append_left (by rwa [length_preorder]), preorder_zero] at h0
      exact h0
    have hlen := lengthAt_eq hhead
    obtain ⟨htiles, hmap⟩ := ih (first + c.size) fun j hj => by
      have hj' := h (c.size + j) (by rw [sizes]; omega)
      rw [preorders, List.getElem?_append_right (by rw [length_preorder]; omega), length_preorder,
        Nat.add_sub_cancel_left] at hj'
      rw [Nat.add_assoc, hj']
    simp only [List.map_cons, numbersFrom, sizes]
    refine ⟨⟨rfl, by rwa [hlen], ?_⟩, ?_⟩
    · rw [hlen, ← Nat.add_assoc]
      exact htiles
    · rw [hhead, hmap]

/-- The children of the node at a place in pre-order are found at the numbers given to them. -/
theorem children_spec {k k' : Kept} {i : Nat} (h : k.preorder[i]? = some k') :
    Tiles k.lengthAt (i + 1) (k'.toNode i).children (i + k'.size) ∧
      (k'.toNode i).children.map (k.preorder[·]?) = k'.children.map some := by
  cases k' with
  | node t r ks =>
    have hspec := numbersFrom_spec k ks (i + 1) fun j hj => by
      rw [Nat.add_right_comm, Nat.add_assoc, preorder_getElem?_add k h (by rw [size]; omega),
        preorder, List.getElem?_cons_succ]
    rw [size, ← Nat.add_assoc, Nat.add_right_comm]
    exact hspec

end Kept

namespace Arena

theorem exists_kept_of_lt {t : ParseTree} {i : Nat} (h : i < (ofTree t).size) :
    ∃ k, (t.kept .open).preorder[i]? = some k := by
  rw [size_ofTree, ← Kept.length_preorder] at h
  exact ⟨_, List.getElem?_eq_getElem h⟩

theorem children_ofTree {t : ParseTree} {i : Nat} {k : Kept}
    (h : (t.kept .open).preorder[i]? = some k) :
    (ofTree t).children i = (k.toNode i).children :=
  children_of_node? (by rw [node?_ofTree, h, Option.map_some])

/-- The arena of a tree is in pre-order. -/
theorem preOrdered_ofTree (t : ParseTree) : (ofTree t).PreOrdered (t.kept .open).lengthAt where
  root := by rw [Kept.lengthAt_eq (Kept.preorder_zero _), size_ofTree]
  children := by
    intro i hi
    obtain ⟨k, hk⟩ := exists_kept_of_lt hi
    rw [children_ofTree hk, Kept.lengthAt_eq hk]
    exact (Kept.children_spec hk).1

end Arena

end Syntax

end PythonAudit
