import PythonAudit.Proofs.StringShape

/-!
# Where the nodes of an arena come from

* `Arena.Origin a t i s` says that node `i` comes from the tree `s` inside `t`;
* `Arena.Placed` says in addition how the value of the node is found, and `Placed.children` is the
  step from a node to its children;
* `Origin.placed` says that every node of a well-shaped tree is placed where it comes from, and
  `existsUnique_origin` that it comes from one tree;
* `Arena.ReadsAlone` says that a node carries what its tree carries alone, and `Placed.readsAlone`
  when it does.
-/

namespace PythonAudit

namespace Syntax

/-- The children that an arena keeps. -/
def ParseTree.keptChildren (t : ParseTree) : List ParseTree :=
  t.children.filter (ParseTree.keeps false t)

namespace Arena

/-- The literal value of a node. -/
def literal? (a : Arena) (id : Nat) : Option String := (a.node? id).bind Node.literal

/-- The root comes from the whole tree, and the children of a node come from the kept children of
its tree, one by one. -/
inductive Origin (a : Arena) (t : ParseTree) : Nat → ParseTree → Prop
  | root : Origin a t 0 t
  | child {i c : Nat} {s u : ParseTree} : Origin a t i s →
      (c, u) ∈ (a.children i).zip s.keptChildren →
      Origin a t c u

/-- Node `i` and what is below it carry the values that they have when the tree `s` stands alone. -/
structure ReadsAlone (a : Arena) (i : Nat) (s : ParseTree) : Prop where
  below : ∀ j, a.Under i j ↔ i ≤ j ∧ j < i + (ofTree s).size
  literal : ∀ j < (ofTree s).size, a.literal? (i + j) = (ofTree s).literal? j

/-- Node `i` of the arena of `t` is the kept part of a well-shaped tree `s`, found with the reading
`r`. -/
structure Placed (t : ParseTree) (i : Nat) (s : ParseTree) (r : Reading) : Prop where
  kept : (t.kept .open).preorder[i]? = some (s.kept r)
  shaped : s.WellShaped
  fits : r.Fits s

end Arena

/-- Nothing is kept inside a string that is not a format string. -/
theorem ParseTree.keptChildren_of_string {t : ParseTree} (h : t.StringShape) (hk : t.kind = .string)
    (hformat : t.isFormat = false) : t.keptChildren = [] := by
  rw [ParseTree.keptChildren, List.filter_eq_nil_iff]
  intro c hc hkeeps
  simp only [ParseTree.keeps, hk, hformat, Bool.and_eq_true, Bool.or_eq_true, beq_iff_eq,
    Bool.and_false, Bool.false_and, Bool.false_eq_true, or_false, bne_self_eq_false,
    false_or] at hkeeps
  exact h.kind_ne_interpolation hk hformat hc hkeeps.1.1.1 hkeeps.2

/-- Nothing is kept inside a segment. -/
theorem ParseTree.keptChildren_of_stringContent {t : ParseTree} (hk : t.kind = .stringContent) :
    t.keptChildren = [] := by
  rw [ParseTree.keptChildren, List.filter_eq_nil_iff]
  intro c _ hkeeps
  rw [ParseTree.keeps_of_stringContent hk] at hkeeps
  cases hkeeps

/-- Of a concatenated string the parts are kept. -/
theorem ParseTree.keptChildren_of_concatenatedString {t : ParseTree} (h : t.StringShape)
    (hk : t.kind = .concatenatedString) : t.keptChildren = t.parts := by
  refine List.filter_congr fun c hc => ?_
  cases hnamed : c.label.named with
  | false => simp [ParseTree.keeps, hnamed]
  | true => rcases h.2 hk c hc hnamed with hcs | hcc <;> simp [ParseTree.keeps, *]

theorem ParseTree.keptAmong_eq (parent : ParseTree) (inherited : Reading) (cs : List ParseTree) :
    ParseTree.keptAmong parent inherited cs =
      cs.filterMap fun c => (inherited.ofChild parent c).map fun r => c.kept r := by
  induction cs with
  | nil => rw [ParseTree.keptAmong, List.filterMap_nil]
  | cons c cs ih =>
    rw [ParseTree.keptAmong, List.filterMap_cons, ih]
    cases inherited.ofChild parent c <;> rfl

theorem ParseTree.children_kept (r : Reading) (t : ParseTree) :
    (t.kept r).children = t.children.filterMap fun c => ((r.resolve t).2.ofChild t c).map fun r' =>
      c.kept r' := by
  rw [ParseTree.kept_eq, Kept.children_node, ParseTree.keptAmong_eq]

theorem ParseTree.tree_children_kept {t : ParseTree} {r : Reading} (h : t.WellShaped)
    (hr : r.Fits t) :
    (t.kept r).children.map Kept.tree = t.keptChildren := by
  rw [ParseTree.children_kept, List.map_filterMap, ParseTree.keptChildren,
    ← List.filterMap_eq_filter]
  refine List.filterMap_congr fun c _ => ?_
  have hsome := Reading.isSome_ofChild_resolve h hr c
  cases hc : (r.resolve t).2.ofChild t c with
  | none =>
    rw [hc, Option.isSome_none] at hsome
    simp [Option.guard, ← hsome]
  | some r' =>
    rw [hc, Option.isSome_some] at hsome
    simp [Option.guard, ← hsome]

namespace Arena

section Placed

variable {t s : ParseTree} {i : Nat} {r : Reading}

theorem literal?_ofTree (t : ParseTree) (i : Nat) :
    (ofTree t).literal? i = (t.kept .open).preorder[i]?.bind Kept.literal := by
  rw [literal?, node?_ofTree, Option.bind_map]
  rfl

theorem Placed.literal (h : Placed t i s r) : (ofTree t).literal? i = (r.resolve s).1 := by
  rw [literal?_ofTree, h.kept, Option.bind_some, Kept.literal, ParseTree.reading_kept,
    ParseTree.tree_kept]

theorem Placed.kind (h : Placed t i s r) : (ofTree t).kind? i = some s.kind := by
  rw [kind?, node?_ofTree, h.kept, Option.map_some, Option.map_some, Kept.toNode,
    ParseTree.tree_kept]

/-- The children of a node are placed, each with the reading that its parent gives it. -/
theorem Placed.children (h : Placed t i s r) :
    List.Forall₂ (fun c u => ∃ r', Placed t c u r' ∧ r'.OfChild s u) ((ofTree t).children i)
      s.keptChildren := by
  have hplaces : List.Forall₂ (· = ·) (((ofTree t).children i).map ((t.kept .open).preorder[·]?))
      ((s.kept r).children.map some) := by
    rw [children_ofTree h.kept, (Kept.children_spec h.kept).2, List.forall₂_eq_eq_eq]
  rw [List.forall₂_map_left_iff, List.forall₂_map_right_iff] at hplaces
  rw [← ParseTree.tree_children_kept h.shaped h.fits, List.forall₂_map_right_iff,
    List.forall₂_iff_zip]
  refine ⟨hplaces.length_eq, fun {c k} hck => ?_⟩
  obtain ⟨u, hu, hk⟩ := List.mem_filterMap.1 (ParseTree.children_kept r s ▸ (List.of_mem_zip hck).2)
  obtain ⟨r', hr', rfl⟩ := Option.map_eq_some_iff.1 hk
  have hchild := Reading.ofChild_resolve h.shaped h.fits hu hr'
  rw [ParseTree.tree_kept]
  exact ⟨r', ⟨List.forall₂_zip hplaces hck, h.shaped.child hu, hchild.fits⟩, hchild⟩

theorem Placed.root (h : t.WellShaped) : Placed t 0 t .open :=
  ⟨Kept.preorder_zero _, h, Reading.Fits.afresh⟩

/-- A node that comes from a tree is placed there. It is the root, or its parent gives it its
reading. -/
theorem Origin.placed (h : t.WellShaped) (ho : (ofTree t).Origin t i s) :
    ∃ r, Placed t i s r ∧
      (r = .open ∨ ∃ p u, i ∈ (ofTree t).children p ∧ (ofTree t).Origin t p u ∧ r.OfChild u s) := by
  induction ho with
  | root => exact ⟨.open, Placed.root h, Or.inl rfl⟩
  | @child p c u s hp hcs ih =>
    obtain ⟨r, hplaced, -⟩ := ih
    obtain ⟨r', hplaced', hchild⟩ := List.forall₂_zip hplaced.children hcs
    exact ⟨r', hplaced', Or.inr ⟨p, u, (List.of_mem_zip hcs).1, hp, hchild⟩⟩

theorem Origin.eq (h : t.WellShaped) {s' : ParseTree} (ho : (ofTree t).Origin t i s)
    (ho' : (ofTree t).Origin t i s') : s = s' := by
  obtain ⟨r, hplaced, -⟩ := ho.placed h
  obtain ⟨r', hplaced', -⟩ := ho'.placed h
  have hkept := congrArg (Option.map Kept.tree) (hplaced.kept.symm.trans hplaced'.kept)
  simpa using hkept

/-- The children of a node come from the kept children of its tree, with the readings that they get
there. -/
theorem Origin.children (h : t.WellShaped) (ho : (ofTree t).Origin t i s) :
    List.Forall₂ (fun c u => (ofTree t).Origin t c u ∧ ∃ r, Placed t c u r ∧ r.OfChild s u)
      ((ofTree t).children i) s.keptChildren := by
  obtain ⟨r, hplaced, -⟩ := ho.placed h
  have hall := hplaced.children
  rw [List.forall₂_iff_zip]
  exact ⟨hall.length_eq, fun hcu => ⟨ho.child hcu, List.forall₂_zip hall hcu⟩⟩

theorem Origin.of_mem_children (h : t.WellShaped) (ho : (ofTree t).Origin t i s) {c : Nat}
    (hc : c ∈ (ofTree t).children i) :
    ∃ u ∈ s.keptChildren, (ofTree t).Origin t c u ∧ ∃ r, Placed t c u r ∧ r.OfChild s u := by
  have hall := ho.children h
  obtain ⟨j, hj, rfl⟩ := List.getElem_of_mem hc
  have hj' : j < s.keptChildren.length := hall.length_eq ▸ hj
  exact ⟨s.keptChildren[j], List.getElem_mem hj', hall.get hj hj'⟩

/-- Every node comes from one tree. -/
theorem existsUnique_origin (h : t.WellShaped) (hi : i < (ofTree t).size) :
    ∃! s, (ofTree t).Origin t i s := by
  have hunder := (preOrdered_ofTree t).under_root hi
  -- the way down from the root leads from origin to origin
  obtain ⟨s, hs⟩ : ∃ s, (ofTree t).Origin t i s := by
    clear hi
    induction hunder with
    | refl => exact ⟨t, Origin.root⟩
    | tail _ hc ih =>
      obtain ⟨s, hs⟩ := ih
      obtain ⟨u, -, hu, -⟩ := hs.of_mem_children h hc
      exact ⟨u, hu⟩
  exact ⟨s, hs, fun s' hs' => hs'.eq h hs⟩

/-- A node that is looked at by itself carries, with all below it, what its tree carries alone. -/
theorem Placed.readsAlone (h : Placed t i s .open) : (ofTree t).ReadsAlone i s := by
  have hi : i < (ofTree t).size := lt_size_of_node? (by rw [node?_ofTree, h.kept, Option.map_some])
  refine ⟨fun j => ?_, fun j hj => ?_⟩
  · rw [(preOrdered_ofTree t).under_iff hi, Kept.lengthAt_eq h.kept, size_ofTree]
  · rw [size_ofTree] at hj
    rw [literal?_ofTree, literal?_ofTree, Kept.preorder_getElem?_add _ h.kept hj]

theorem Placed.reading_eq_open (h : Placed t i s r) (hcontent : s.kind ≠ .stringContent)
    (hplain : s.kind = .string → s.isPlain = false) : r = .open := by
  cases h.fits with
  | afresh => rfl
  | segment v hk => exact absurd hk hcontent
  | part hk hp =>
    rw [hplain hk] at hp
    cases hp

theorem Placed.literal_open (h : Placed t i s .open) : (ofTree t).literal? i = s.ownValue? := by
  rw [h.literal, Reading.resolve_open]

theorem Origin.children_eq_nil (h : t.WellShaped) (ho : (ofTree t).Origin t i s)
    (hkept : s.keptChildren = []) :
    (ofTree t).children i = [] := by
  rw [← List.length_eq_zero_iff, (ho.children h).length_eq, hkept, List.length_nil]

end Placed

end Arena

end Syntax

end PythonAudit
