import PythonAudit.Proofs.Kept

/-!
# Pruned trees and their arenas

The arena of a tree is the pruned tree, written down in pre-order.

* `ParseTree.pruned` cuts off, with all that is below, every node without a name, every comment, the
  children of a string segment, and the children of a string apart from interpolations and the
  segments of a format string;
* `ParseTree.preorder` lists a tree and all that is below, and `ParseTree.toNode` writes a tree down
  as the node with a given number;
* `Arena.Flattens` says what it means that an arena is a tree in pre-order;
* `Lowering` is the loop that fills the arena, one tree at a time, and `lowering_flattens_pruned`
  says that it comes to an end with the pruned tree and never looks for an owner outside the arena.
-/

namespace PythonAudit

namespace Syntax

/-! ### Pruning -/

namespace ParseTree

/-- The opening of the string says that it is a format string. -/
def isFormat (t : ParseTree) : Bool := t.form?.any fun f => f.format

/-- A child stays when its parent is pruned; `covered` tells whether the parent belongs to a literal
that already has a value. -/
def keeps (covered : Bool) (parent child : ParseTree) : Bool :=
  child.label.named && child.kind != .comment && parent.kind != .stringContent &&
    (parent.kind != .string || child.kind == .interpolation ||
      (child.kind == .stringContent && parent.isFormat && !covered))

mutual

/-- Cuts off what an arena leaves out. An interpolation belongs to no literal around it. -/
def prune (covered : Bool) : ParseTree → ParseTree
  | node l cs => node l (pruneAmong (node l cs) (covered || (node l cs).ownValue?.isSome) cs)

/-- Prunes the children that stay and cuts off the others. -/
def pruneAmong (parent : ParseTree) (covered : Bool) : List ParseTree → List ParseTree
  | [] => []
  | c :: cs =>
    if keeps covered parent c then
      prune (covered && parent.kind != .string) c :: pruneAmong parent covered cs
    else pruneAmong parent covered cs

end

/-- What an arena keeps of a tree. -/
def pruned (t : ParseTree) : ParseTree := t.prune false

mutual

/-- A tree and all trees below it in pre-order. -/
def preorder : ParseTree → List ParseTree
  | node l cs => node l cs :: preorders cs

/-- Several trees and all trees below them in pre-order. -/
def preorders : List ParseTree → List ParseTree
  | [] => []
  | t :: ts => t.preorder ++ preorders ts

end

/-- A tree as the node with a given number and literal value. Rows count from one here, the root has
no role, and the children get the numbers that follow, each the first one that its elder siblings
leave free. -/
def toNode (number : Nat) (literal : Option String) (t : ParseTree) : Node :=
  { kind := t.kind
    line := t.extent.start.row + 1
    column := t.extent.start.column
    field := if number = 0 then none else t.label.field
    children := numbersFrom (number + 1) (t.children.map size)
    text := if t.kind == .identifier then some t.label.text else none
    literal := literal }

end ParseTree

/-- The arena is the tree in pre-order. -/
structure Arena.Flattens (a : Arena) (t : ParseTree) : Prop where
  size_eq : a.size = t.preorder.length
  root_eq : ∃ v, a.node? 0 = some (t.toNode 0 v)
  node_eq : ∀ i s, t.preorder[i]? = some s → ∃ v, a.node? i = some (s.toNode i v)
  children_eq : ∀ i s, t.preorder[i]? = some s →
    (a.children i).map (t.preorder[·]?) = s.children.map some
  children_ascending : ∀ p, (a.children p).Pairwise (· < ·)
  child_after_owner : ∀ p c, c ∈ a.children p → p < c ∧ c < a.size
  root_not_child : ∀ p, 0 ∉ a.children p
  one_owner : ∀ c, 0 < c → c < a.size → ∃! p, c ∈ a.children p
  owned_once : ∀ p c, c ∈ a.children p → (a.children p).count c = 1
  below_interval : ∀ i s, t.preorder[i]? = some s → ∀ j, a.Under i j ↔
    i ≤ j ∧ j < i + s.preorder.length

/-! ### The kept nodes are those of the pruned tree -/

/-- The reading of a node that belongs to a literal with a value, or of one that does not. -/
def Reading.ofCovered : Bool → Reading
  | true => .covered
  | false => .open

theorem Reading.resolve_ofCovered (b : Bool) (t : ParseTree) :
    ((Reading.ofCovered b).resolve t).2 = Reading.ofCovered (b || t.ownValue?.isSome) := by
  cases b with
  | true => rfl
  | false =>
    simp only [Reading.ofCovered, Reading.resolve, Bool.false_or]
    cases t.ownValue? <;> rfl

theorem Reading.ofChild_of_stringContent {parent : ParseTree} (h : parent.kind = .stringContent)
    (inherited : Reading) (c : ParseTree) : inherited.ofChild parent c = none := by
  simp [Reading.ofChild, h]

theorem ParseTree.keeps_of_stringContent {parent : ParseTree} (h : parent.kind = .stringContent)
    (b : Bool) (c : ParseTree) : ParseTree.keeps b parent c = false := by
  simp [ParseTree.keeps, h]

/-- A child that is cut off gets no reading. -/
theorem Reading.ofChild_of_not_keeps {b : Bool} {parent c : ParseTree}
    (h : ParseTree.keeps b parent c = false) : (Reading.ofCovered b).ofChild parent c = none := by
  unfold Reading.ofChild
  split_ifs with hout hstring
  · rfl
  · simp_all [ParseTree.keeps]
  · split
    next hk => simp_all [ParseTree.keeps]
    next hk =>
      cases hf : parent.form? with
      | none => rfl
      | some f => cases b <;> simp_all [ParseTree.keeps, ParseTree.isFormat, Reading.ofCovered]
    next => rfl

/-- A child that stays gets the reading of a node, unless it is a segment and its value is given. -/
theorem Reading.ofChild_of_keeps {b : Bool} {parent c : ParseTree}
    (h : ParseTree.keeps b parent c = true) :
    ∃ r, (Reading.ofCovered b).ofChild parent c = some r ∧
      (r = Reading.ofCovered (b && parent.kind != .string) ∨ c.kind = .stringContent) := by
  unfold Reading.ofChild
  split_ifs with hout hstring
  · simp_all [ParseTree.keeps]
  · exact ⟨_, rfl, Or.inl (by simp [hstring])⟩
  · split
    next hk =>
      refine ⟨.open, rfl, Or.inl ?_⟩
      simp_all [Reading.ofCovered]
    next hk =>
      cases hf : parent.form? with
      | none => simp_all [ParseTree.keeps, ParseTree.isFormat]
      | some f =>
        cases b <;> simp_all [ParseTree.keeps, ParseTree.isFormat, Reading.ofCovered]
    next => simp_all [ParseTree.keeps]

mutual

/-- A kept tree without its readings and without what is cut off. -/
def Kept.toTree : Kept → ParseTree
  | .node t _ ks => .node t.label (Kept.toTrees ks)

/-- Kept trees without their readings and without what is cut off. -/
def Kept.toTrees : List Kept → List ParseTree
  | [] => []
  | k :: ks => k.toTree :: Kept.toTrees ks

end

theorem ParseTree.keptAmong_of_stringContent {parent : ParseTree} (h : parent.kind = .stringContent)
    (inherited : Reading) (cs : List ParseTree) : ParseTree.keptAmong parent inherited cs = [] := by
  induction cs with
  | nil => rw [ParseTree.keptAmong]
  | cons c cs ih => rw [ParseTree.keptAmong, Reading.ofChild_of_stringContent h, ih]

theorem ParseTree.pruneAmong_of_stringContent {parent : ParseTree}
    (h : parent.kind = .stringContent) (b : Bool) (cs : List ParseTree) :
    ParseTree.pruneAmong parent b cs = [] := by
  induction cs with
  | nil => rw [ParseTree.pruneAmong]
  | cons c cs ih =>
    rw [ParseTree.pruneAmong, if_neg (by simp [ParseTree.keeps_of_stringContent h]), ih]

mutual

theorem Kept.toTree_kept : (t : ParseTree) → ∀ {r : Reading} {b : Bool},
    r = Reading.ofCovered b ∨ t.kind = .stringContent → (t.kept r).toTree = t.prune b
  | .node l cs, r, b, h => by
    rw [ParseTree.kept, Kept.toTree, ParseTree.prune, ParseTree.label_node]
    congr 1
    -- a segment may have a value given to it, but it has no kept children in any case
    by_cases hc : (ParseTree.node l cs).kind = .stringContent
    · rw [ParseTree.keptAmong_of_stringContent hc, ParseTree.pruneAmong_of_stringContent hc,
        Kept.toTrees]
    · obtain rfl := h.resolve_right hc
      rw [Reading.resolve_ofCovered]
      exact Kept.toTrees_keptAmong cs _ _

theorem Kept.toTrees_keptAmong : (cs : List ParseTree) → ∀ (parent : ParseTree) (b : Bool),
    Kept.toTrees (ParseTree.keptAmong parent (Reading.ofCovered b) cs) =
      ParseTree.pruneAmong parent b cs
  | [], parent, b => by rw [ParseTree.keptAmong, ParseTree.pruneAmong, Kept.toTrees]
  | c :: cs, parent, b => by
    rw [ParseTree.keptAmong, ParseTree.pruneAmong]
    cases hk : ParseTree.keeps b parent c with
    | false =>
      rw [Reading.ofChild_of_not_keeps hk, if_neg Bool.false_ne_true]
      exact Kept.toTrees_keptAmong cs parent b
    | true =>
      obtain ⟨r, hr, hread⟩ := Reading.ofChild_of_keeps hk
      rw [hr, if_pos rfl, Kept.toTrees, Kept.toTree_kept c hread,
        Kept.toTrees_keptAmong cs parent b]

end

/-- The kept part of a tree is the pruned tree. -/
theorem Kept.toTree_open (t : ParseTree) : (t.kept .open).toTree = t.pruned :=
  Kept.toTree_kept t (Or.inl rfl)

theorem Kept.toTrees_eq_map (ks : List Kept) : Kept.toTrees ks = ks.map Kept.toTree := by
  induction ks with
  | nil => rw [Kept.toTrees, List.map_nil]
  | cons k ks ih => rw [Kept.toTrees, ih, List.map_cons]

theorem Kept.children_toTree (k : Kept) : k.toTree.children = k.children.map Kept.toTree := by
  cases k with
  | node t r ks =>
    rw [Kept.toTree, ParseTree.children_node, Kept.toTrees_eq_map, Kept.children_node]

theorem Kept.label_toTree (k : Kept) : k.toTree.label = k.tree.label := by
  cases k with
  | node t r ks => rw [Kept.toTree, ParseTree.label_node, Kept.tree_node]

mutual

theorem Kept.size_toTree : (k : Kept) → k.toTree.size = k.size
  | .node t r ks => by rw [Kept.toTree, ParseTree.size, Kept.size, Kept.sizes_toTrees ks]

theorem Kept.sizes_toTrees : (ks : List Kept) → ParseTree.sizes (Kept.toTrees ks) = Kept.sizes ks
  | [] => by rw [Kept.toTrees, ParseTree.sizes, Kept.sizes]
  | k :: ks => by
    rw [Kept.toTrees, ParseTree.sizes, Kept.sizes, Kept.size_toTree k, Kept.sizes_toTrees ks]

end

mutual

theorem Kept.preorder_toTree : (k : Kept) → k.toTree.preorder = k.preorder.map Kept.toTree
  | .node t r ks => by
    rw [Kept.preorder, List.map_cons, Kept.toTree, ParseTree.preorder, Kept.preorders_toTrees ks]

theorem Kept.preorders_toTrees : (ks : List Kept) →
    ParseTree.preorders (Kept.toTrees ks) = (Kept.preorders ks).map Kept.toTree
  | [] => by rw [Kept.toTrees, ParseTree.preorders, Kept.preorders, List.map_nil]
  | k :: ks => by
    rw [Kept.toTrees, ParseTree.preorders, Kept.preorders, List.map_append, Kept.preorder_toTree k,
      Kept.preorders_toTrees ks]

end

theorem Kept.toNode_toTree (number : Nat) (k : Kept) :
    k.toTree.toNode number k.literal = k.toNode number := by
  have hsizes : k.toTree.children.map ParseTree.size = k.children.map Kept.size := by
    rw [Kept.children_toTree, List.map_map]
    exact List.map_congr_left fun k' _ => Kept.size_toTree k'
  unfold ParseTree.toNode Kept.toNode ParseTree.kind ParseTree.extent
  rw [hsizes, Kept.label_toTree]

theorem ParseTree.pruned_preorder_eq_some {t s : ParseTree} {i : Nat}
    (h : t.pruned.preorder[i]? = some s) :
    ∃ k, (t.kept .open).preorder[i]? = some k ∧ k.toTree = s := by
  rw [← Kept.toTree_open, Kept.preorder_toTree, List.getElem?_map] at h
  exact Option.map_eq_some_iff.1 h

/-! ### The arena of a tree -/

theorem Arena.size_push (a : Arena) (owner : Option Nat) (n : Node) :
    (a.push owner n).size = a.size + 1 := by
  cases owner <;> simp [push, size]

/-- The arena of a tree is the pruned tree in pre-order. -/
theorem Arena.flattens_ofTree (t : ParseTree) : (ofTree t).Flattens t.pruned := by
  have hpre := preOrdered_ofTree t
  have hnode : ∀ i s, t.pruned.preorder[i]? = some s →
      ∃ v, (ofTree t).node? i = some (s.toNode i v) := by
    intro i s hs
    obtain ⟨k, hk, rfl⟩ := ParseTree.pruned_preorder_eq_some hs
    exact ⟨k.literal, by rw [node?_ofTree, hk, Option.map_some, Kept.toNode_toTree]⟩
  constructor
  case size_eq =>
    rw [size_ofTree, ← Kept.toTree_open, Kept.preorder_toTree, List.length_map,
      Kept.length_preorder]
  case root_eq =>
    refine hnode 0 _ ?_
    rw [← Kept.toTree_open, Kept.preorder_toTree, List.getElem?_map, Kept.preorder_zero,
      Option.map_some]
  case node_eq => exact hnode
  case children_eq =>
    intro i s hs
    obtain ⟨k, hk, rfl⟩ := ParseTree.pruned_preorder_eq_some hs
    have hplaces := congrArg (List.map (Option.map Kept.toTree)) (Kept.children_spec hk).2
    rw [children_ofTree hk, Kept.children_toTree, ← Kept.toTree_open, Kept.preorder_toTree]
    simpa [Function.comp_def] using hplaces
  case children_ascending => exact hpre.children_pairwise_lt
  case child_after_owner =>
    intro p c hc
    exact ⟨(hpre.child_bounds hc).1, hpre.child_lt_size hc⟩
  case root_not_child => exact hpre.zero_not_mem_children
  case one_owner =>
    intro c hpos hc
    exact hpre.existsUnique_owner hpos hc
  case owned_once =>
    intro p c hc
    exact List.count_eq_one_of_mem ((hpre.children_pairwise_lt p).imp Nat.ne_of_lt) hc
  case below_interval =>
    intro i s hs j
    obtain ⟨k, hk, rfl⟩ := ParseTree.pruned_preorder_eq_some hs
    have hi : i < (ofTree t).size := lt_size_of_node? (by rw [node?_ofTree, hk, Option.map_some])
    rw [hpre.under_iff hi, Kept.lengthAt_eq hk, Kept.preorder_toTree, List.length_map,
      Kept.length_preorder]

/-! ### The loop that fills the arena -/

/-- The trees that wait and the arena filled so far. -/
structure Lowering where
  waiting : List Pending
  arena : Arena

namespace Lowering

/-- Before the first round only the whole tree waits. -/
def start (t : ParseTree) : Lowering := ⟨[{ tree := t }], Arena.empty⟩

/-- One round: the first tree that waits becomes a node, its owner adopts it, and its children wait
before the other trees. -/
inductive Step : Lowering → Lowering → Prop
  | round (p : Pending) (ps : List Pending) (a : Arena) :
      Step ⟨p :: ps, a⟩
        ⟨Pending.ofChildren p.tree a.size (p.reading.resolve p.tree).2 p.tree.children ++ ps,
          a.push p.owner p.toNode⟩

/-- Some rounds lead from one state to another. -/
def Runs : Lowering → Lowering → Prop := Relation.ReflTransGen Step

/-- Every owner that a waiting tree names is in the arena. -/
def OwnersKnown (s : Lowering) : Prop := ∀ p ∈ s.waiting, ∀ o, p.owner = some o → o < s.arena.size

theorem ownersKnown_start (t : ParseTree) : (start t).OwnersKnown := by
  intro p hp o ho
  rw [List.mem_singleton.1 hp] at ho
  cases ho

theorem owner_of_mem_ofChildren {parent : ParseTree} {id : Nat} {inherited : Reading} {p : Pending}
    {cs : List ParseTree} (h : p ∈ Pending.ofChildren parent id inherited cs) :
    p.owner = some id := by
  induction cs with
  | nil => cases h
  | cons c cs ih =>
    rw [Pending.ofChildren] at h
    split at h
    · rcases List.mem_cons.1 h with rfl | h
      · rfl
      · exact ih h
    · exact ih h

theorem OwnersKnown.step {s s' : Lowering} (h : s.OwnersKnown) (hs : Step s s') :
    s'.OwnersKnown := by
  cases hs with
  | round p ps a =>
    intro q hq o ho
    rw [Arena.size_push]
    rcases List.mem_append.1 hq with hq | hq
    · rw [owner_of_mem_ofChildren hq, Option.some.injEq] at ho
      omega
    · exact Nat.lt_succ_of_lt (h q (List.mem_cons_of_mem p hq) o ho)

theorem OwnersKnown.runs {s s' : Lowering} (h : s.OwnersKnown) (hs : Runs s s') :
    s'.OwnersKnown := by
  induction hs with
  | refl => exact h
  | tail _ hstep ih => exact ih.step hstep

/-- A round does not change what the loop ends with. -/
theorem flatten_eq_of_runs {s s' : Lowering} (h : Runs s s') :
    Arena.flatten s.waiting s.arena = Arena.flatten s'.waiting s'.arena := by
  induction h with
  | refl => rfl
  | tail _ hstep ih =>
    cases hstep with
    | round p ps a => rw [ih, Arena.flatten_cons]

/-- The loop comes to its end from every state. -/
theorem runs_flatten (ps : List Pending) (a : Arena) : Runs ⟨ps, a⟩ ⟨[], Arena.flatten ps a⟩ := by
  induction ps, a using Arena.flatten.induct with
  | case1 a =>
    rw [Arena.flatten]
    exact Relation.ReflTransGen.refl
  | case2 a p ps inherited ih =>
    rw [Arena.flatten_cons]
    exact Relation.ReflTransGen.head (Step.round p ps a) ih

end Lowering

/-- **The loop ends with the pruned tree in pre-order.** From every state that it can reach it goes
on to the arena of the tree, every owner it is about to look up is in the arena, and that arena is
the pruned tree. -/
theorem lowering_flattens_pruned (t : ParseTree) :
    (∀ s, Lowering.Runs (Lowering.start t) s →
      Lowering.Runs s ⟨[], Arena.ofTree t⟩ ∧ ∀ p ∈ s.waiting, ∀ o, p.owner = some o →
        o < s.arena.size) ∧
    (Arena.ofTree t).Flattens t.pruned := by
  refine ⟨fun s hs => ⟨?_, (Lowering.ownersKnown_start t).runs hs⟩, Arena.flattens_ofTree t⟩
  have hend := Lowering.flatten_eq_of_runs hs
  rw [Arena.ofTree, show Arena.flatten [{ tree := t }] Arena.empty = _ from hend]
  exact Lowering.runs_flatten s.waiting s.arena

end Syntax

end PythonAudit
