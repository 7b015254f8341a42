import PythonAudit.Proofs.DecodeChain
import PythonAudit.Proofs.ParsedStatement
import PythonAudit.Proofs.Pruning

/-!
# Where in a call a decoded argument stands

* `Arena.Wraps a P x d` says that node `d` stands in node `x`, and that every node from `x` down to
  it satisfies `P`;
* `not_spells_of_wraps`: a dotted name never wraps a call, so the decoding call is never the callee
  of the other;
* `Grammatical.callGrammar` says that the arena of a grammatical tree has the rules of the tree;
* `DecodeChain.exists_isArgument` and `DecodeChain.exists_isPositional` say where in the outer call
  the inner one stands;
* `decode_chains_of_tree` says that a walk reports the decode chains of a tree in pre-order, once
  each, and where they stand.
-/

namespace PythonAudit

open Syntax

namespace Syntax

namespace ParseTree

/-! ### Rules after pruning -/

theorem Grammatical.rule {t : ParseTree} (h : t.Grammatical) :
    Rule t.kind (t.children.map label) := by
  cases h with
  | node hrule _ => exact hrule

theorem label_prune (b : Bool) (t : ParseTree) : (t.prune b).label = t.label := by
  cases t
  rw [prune, label_node, label_node]

theorem labels_pruneAmong (parent : ParseTree) (b : Bool) (cs : List ParseTree) :
    ((pruneAmong parent b cs).map label).Sublist (cs.map label) := by
  induction cs with
  | nil => simp [pruneAmong]
  | cons c cs ih =>
    rw [pruneAmong]
    split
    · rw [List.map_cons, List.map_cons, label_prune]
      exact ih.cons_cons _
    · exact ih.cons _

mutual

/-- Pruning keeps a tree grammatical. -/
theorem Grammatical.prune {t : ParseTree} (h : t.Grammatical) (b : Bool) :
    (t.prune b).Grammatical := by
  cases t with
  | node l cs =>
    cases h with
    | node hrule hcs =>
      rw [ParseTree.prune]
      exact ⟨hrule.sublist (labels_pruneAmong _ _ cs), Grammatical.pruneAmong _ _ hcs⟩

theorem Grammatical.pruneAmong (parent : ParseTree) (b : Bool) {cs : List ParseTree}
    (h : ∀ c ∈ cs, c.Grammatical) :
    ∀ c ∈ ParseTree.pruneAmong parent b cs, c.Grammatical := by
  cases cs with
  | nil => simp [ParseTree.pruneAmong]
  | cons c cs =>
    rw [List.forall_mem_cons] at h
    rw [ParseTree.pruneAmong]
    split
    · exact List.forall_mem_cons.2 ⟨h.1.prune _, Grammatical.pruneAmong parent b h.2⟩
    · exact Grammatical.pruneAmong parent b h.2

end

mutual

theorem Grammatical.of_mem_preorder {t s : ParseTree} (h : t.Grammatical) (hs : s ∈ t.preorder) :
    s.Grammatical := by
  cases t with
  | node l cs =>
    rw [preorder, List.mem_cons] at hs
    rcases hs with rfl | hs
    · exact h
    · cases h with
      | node _ hcs => exact Grammatical.of_mem_preorders hcs hs

theorem Grammatical.of_mem_preorders {ts : List ParseTree} {s : ParseTree}
    (h : ∀ t ∈ ts, t.Grammatical) (hs : s ∈ preorders ts) : s.Grammatical := by
  cases ts with
  | nil => simp [preorders] at hs
  | cons t ts =>
    rw [List.forall_mem_cons] at h
    rw [preorders, List.mem_append] at hs
    rcases hs with hs | hs
    · exact h.1.of_mem_preorder hs
    · exact Grammatical.of_mem_preorders h.2 hs

end

end ParseTree

namespace Arena

/-- Node `d` is node `x` or stands in it, and every node from `x` down to it, itself left out,
satisfies `P`. -/
inductive Wraps (a : Arena) (P : Nat → Prop) : Nat → Nat → Prop
  | here (d : Nat) : Wraps a P d d
  | inside {x c d : Nat} : P x → c ∈ a.children x → Wraps a P c d → Wraps a P x d

/-- The role of a node in its parent. -/
def field? (a : Arena) (id : Nat) : Option Field := (a.node? id).bind Node.field

/-- The call has one child in the role of its function and at most one other child. -/
def CallShape (a : Arena) (e : Nat) : Prop :=
  ((a.children e).filter fun c => a.field? c == some .function).length = 1 ∧
    (a.children e).length ≤ 2

/-- Node `d` stands in the only child of the call `e` beside its function, and from that child `x`
down to it there are only nodes that group an expression. -/
structure IsArgument (a : Arena) (e x d : Nat) : Prop where
  child : x ∈ a.children e
  not_function : a.field? x ≠ some .function
  others : ∀ y ∈ a.children e, y ≠ x → a.field? y = some .function
  wrapped : a.Wraps a.Groups x d

/-- Node `d` is an argument in the list of arguments `x` of the call `e`, with nothing but
parentheses around it. -/
structure IsPositional (a : Arena) (e x d : Nat) : Prop where
  child : x ∈ a.children e
  kind : a.kind? x = some .argumentList
  not_function : a.field? x ≠ some .function
  argument : ∃ c ∈ a.children x, a.Wraps (fun p => a.kind? p = some .parenthesizedExpression) c d

/-- Node `d` is not below the function of the call `e`. -/
def NotInFunction (a : Arena) (e d : Nat) : Prop :=
  ∀ f ∈ a.children e, a.field? f = some .function → ¬ a.Under f d

/-- The rules of grammatical trees, in an arena. -/
structure CallGrammar (a : Arena) : Prop where
  call : ∀ e x, a.kind? e = some .call → x ∈ a.children e →
    a.field? x = some .function ∨ ∃ k, a.kind? x = some k ∧ isArguments k = true
  function : ∀ e f f', a.kind? e = some .call → f ∈ a.children e → f' ∈ a.children e →
    a.field? f = some .function → a.field? f' = some .function → f = f'
  group : ∀ g c, a.Groups g → c ∈ a.children g → a.kind? c ≠ some .argumentList

instance (a : Arena) (e : Nat) : Decidable (a.CallShape e) := inferInstanceAs (Decidable (_ ∧ _))

section Wraps

variable {a : Arena} {len : Nat → Nat} {P : Nat → Prop} {x c d e : Nat}

theorem Wraps.under (h : a.Wraps P x d) : a.Under x d := by
  induction h with
  | here d => exact Relation.ReflTransGen.refl
  | inside _ hc _ ih => exact Relation.ReflTransGen.head hc ih

theorem Wraps.child (h : a.Wraps P x d) (hd : P d) (hc : c ∈ a.children d) : a.Wraps P x c := by
  induction h with
  | here d => exact Wraps.inside hd hc (Wraps.here c)
  | inside hx hy _ ih => exact Wraps.inside hx hy (ih hd hc)

/-- Below its semantic parent a node is wrapped in nodes that only group an expression. -/
theorem SemanticParent.exists_wraps (h : a.SemanticParent d e) :
    ∃ x ∈ a.children e, a.Wraps a.Groups x d := by
  induction h with
  | @owner c e hc _ => exact ⟨c, hc, Wraps.here c⟩
  | through hc hg _ ih =>
    obtain ⟨x, hx, hwraps⟩ := ih
    exact ⟨x, hx, hwraps.child hg hc⟩

/-- A dotted name never wraps a call. -/
theorem not_spells_of_wraps (h : a.Wraps a.Groups x d) (hd : a.kind? d = some .call)
    (ss : List String) :
    ¬ a.Spells x ss := by
  induction h with
  | here d =>
    rintro (⟨hk, -⟩ | ⟨hk, -⟩ | ⟨hk, -⟩) <;> rw [hd] at hk <;> cases hk
  | inside hx hc _ ih =>
    intro hs
    -- of the nodes that group, only parentheses stand in a dotted name
    cases hs with
    | identifier hk _ => rcases hx with hg | hg <;> rw [hk] at hg <;> cases hg
    | member hk _ _ _ _ => rcases hx with hg | hg <;> rw [hk] at hg <;> cases hg
    | parenthesized hk hone hrest =>
      rw [hone, List.mem_singleton] at hc
      exact ih hd (hc ▸ hrest)

/-- Two children of a node that hold the same node below them are the same child. -/
theorem PreOrdered.eq_of_under (h : a.PreOrdered len) {y : Nat} (hx : x ∈ a.children e)
    (hy : y ∈ a.children e) (hxd : a.Under x d) (hyd : a.Under y d) : x = y :=
  (h.children e (lt_size_of_mem_children hx)).eq_of_overlap hx hy
    ((h.under_iff (h.child_lt_size hx)).1 hxd) ((h.under_iff (h.child_lt_size hy)).1 hyd)

theorem field?_of_childBy? {f : Nat} {r : Field} (h : a.childBy? e r = some f) :
    a.field? f = some r := by
  have hany := List.find?_some h
  cases hn : a.node? f with
  | none =>
    rw [hn] at hany
    cases hany
  | some n =>
    rw [field?, hn, Option.bind_some]
    rw [hn, Option.any_some, beq_iff_eq] at hany
    exact hany

/-- The child of the executing call that holds the decoding call is not the callee. -/
theorem DecodeChain.callee_ne {decoder executor : String}
    (hchain : a.DecodeChain d e decoder executor) (hwraps : a.Wraps a.Groups x d) :
    a.childBy? e .function ≠ some x := by
  intro hx
  obtain ⟨name, ⟨-, f, ss, hf, hss, -⟩, -⟩ := hchain.execute
  obtain ⟨_, ⟨hd, -⟩, -⟩ := hchain.decode
  obtain rfl : f = x := Option.some.inj (hf.symm.trans hx)
  exact not_spells_of_wraps hwraps hd ss hss

theorem eq_of_length_le_one {l : List Nat} {y : Nat} (hl : l.length ≤ 1) (hx : x ∈ l) (hy : y ∈ l) :
    x = y := by
  match l, hl with
  | [z], _ => rw [List.mem_singleton.1 hx, List.mem_singleton.1 hy]

theorem eq_of_length_le_two {l : List Nat} {f y : Nat} (hl : l.length ≤ 2) (hx : x ∈ l) (hf : f ∈ l)
    (hxf : x ≠ f) (hy : y ∈ l) (hyx : y ≠ x) : y = f := by
  have hsub : [y, x, f] ⊆ l := by
    simp [hx, hf, hy]
  by_contra hyf
  have hnodup : [y, x, f].Nodup := by
    simp [hyx, hyf, hxf]
  have hthree := (hnodup.subperm hsub).length_le
  simp only [List.length_cons, List.length_nil] at hthree
  omega

/-- With one function and at most one other child, the other child holds the decoding call. -/
theorem DecodeChain.exists_isArgument {decoder executor : String}
    (hchain : a.DecodeChain d e decoder executor) (hshape : a.CallShape e) :
    ∃ x, a.IsArgument e x d := by
  obtain ⟨x, hx, hwraps⟩ := hchain.parent.exists_wraps
  obtain ⟨hone, hlen⟩ := hshape
  obtain ⟨f, hfilter⟩ := List.length_eq_one_iff.1 hone
  have hfunction : ∀ y, y ∈ a.children e ∧ a.field? y = some .function ↔ y = f := by
    intro y
    have hmem : y ∈ (a.children e).filter (fun c => a.field? c == some .function) ↔ y = f := by
      rw [hfilter, List.mem_singleton]
    rwa [List.mem_filter, beq_iff_eq] at hmem
  obtain ⟨hf, hfield⟩ := (hfunction f).2 rfl
  have hcallee : a.childBy? e .function = some f := by
    obtain ⟨_, ⟨-, f', _, hf', -, -⟩, -⟩ := hchain.execute
    rw [hf', (hfunction f').1 ⟨mem_children_of_childBy? hf', field?_of_childBy? hf'⟩]
  have hxf : x ≠ f := by
    rintro rfl
    exact hchain.callee_ne hwraps hcallee
  refine ⟨x, hx, fun hfx => hxf ((hfunction x).1 ⟨hx, hfx⟩), fun y hy hyx => ?_, hwraps⟩
  -- among at most two children, one that is not `x` is the function
  obtain rfl := eq_of_length_le_two hlen hx hf hxf hy hyx
  exact hfield

theorem notInFunction_of_under (h : a.PreOrdered len) (hx : x ∈ a.children e)
    (hfield : a.field? x ≠ some .function) (hunder : a.Under x d) : a.NotInFunction e d := by
  intro f hf hfunction hbelow
  obtain rfl := h.eq_of_under hx hf hunder hbelow
  exact hfield hfunction

/-- A node below a node that groups is wrapped in parentheses only, when no list of arguments is in
between. -/
theorem CallGrammar.wraps_parentheses (h : a.CallGrammar) {g : Nat} (hg : a.Groups g)
    (hx : x ∈ a.children g) (hwraps : a.Wraps a.Groups x d) :
    a.Wraps (fun p => a.kind? p = some .parenthesizedExpression) x d := by
  induction hwraps generalizing g with
  | here d => exact Wraps.here d
  | inside hgx hc _ ih => exact Wraps.inside (hgx.resolve_left (h.group g _ hg hx)) hc (ih hgx hc)

/-- The decoding call is one of the arguments in a list of arguments, in parentheses at most. -/
theorem DecodeChain.exists_isPositional {decoder executor : String}
    (hchain : a.DecodeChain d e decoder executor) (hgrammar : a.CallGrammar) :
    ∃ x, a.IsPositional e x d := by
  obtain ⟨x, hx, hwraps⟩ := hchain.parent.exists_wraps
  obtain ⟨_, ⟨hd, -⟩, -⟩ := hchain.decode
  obtain ⟨_, ⟨he, f, _, hf, -⟩, -⟩ := hchain.execute
  -- the callee is the only function, and it does not hold the decoding call
  have hfield : a.field? x ≠ some .function := by
    intro hfunction
    obtain rfl :=
      hgrammar.function e x f he hx (mem_children_of_childBy? hf) hfunction (field?_of_childBy? hf)
    exact hchain.callee_ne hwraps hf
  obtain ⟨k, hk, hargs⟩ := (hgrammar.call e x he hx).resolve_left hfield
  cases hwraps with
  | here =>
    rw [hd] at hk
    cases hk
    cases hargs
  | inside hg hc hrest =>
    refine ⟨x, hx, hg.resolve_right fun hparen => ?_, hfield, _, hc,
      hgrammar.wraps_parentheses hg hc hrest⟩
    rw [hparen] at hk
    cases hk
    cases hargs

end Wraps

/-! ### Rules in the arena -/

variable {a : Arena}

/-- The kinds and roles of the children are those of the children of the tree. -/
theorem Flattens.looks {t s : ParseTree} {i : Nat} (h : a.Flattens t)
    (hs : t.preorder[i]? = some s) :
    (a.children i).map (fun c => (a.kind? c, a.field? c)) =
      s.children.map fun u => (some u.kind, u.label.field) := by
  have hplaces : List.Forall₂ (· = ·) ((a.children i).map (t.preorder[·]?))
      (s.children.map some) := by
    rw [h.children_eq i s hs, List.forall₂_eq_eq_eq]
  rw [List.forall₂_map_left_iff, List.forall₂_map_right_iff, List.forall₂_iff_zip] at hplaces
  rw [← List.forall₂_eq_eq_eq, List.forall₂_map_left_iff, List.forall₂_map_right_iff,
    List.forall₂_iff_zip]
  refine ⟨hplaces.1, fun {c u} hcu => ?_⟩
  have hpos : c ≠ 0 := by
    rintro rfl
    exact h.root_not_child i (List.of_mem_zip hcu).1
  obtain ⟨v, hv⟩ := h.node_eq c u (hplaces.2 hcu)
  simp [kind?, field?, hv, ParseTree.toNode, hpos]

theorem Flattens.exists_child {t s : ParseTree} {i c : Nat} (h : a.Flattens t)
    (hs : t.preorder[i]? = some s) (hc : c ∈ a.children i) :
    ∃ u ∈ s.children, a.kind? c = some u.kind ∧ a.field? c = u.label.field := by
  have hmem := List.mem_map_of_mem (f := fun c => (a.kind? c, a.field? c)) hc
  rw [h.looks hs] at hmem
  obtain ⟨u, hu, heq⟩ := List.mem_map.1 hmem
  exact ⟨u, hu, (congrArg Prod.fst heq).symm, (congrArg Prod.snd heq).symm⟩

theorem Flattens.exists_tree {t : ParseTree} {i : Nat} {k : Kind} (h : a.Flattens t)
    (hk : a.kind? i = some k) :
    ∃ s, t.preorder[i]? = some s ∧ s.kind = k := by
  obtain ⟨n, hn, rfl⟩ := kind?_eq_some_iff.1 hk
  have hlt := lt_size_of_node? hn
  rw [h.size_eq] at hlt
  obtain ⟨v, hv⟩ := h.node_eq i _ (List.getElem?_eq_getElem hlt)
  rw [hn] at hv
  exact ⟨_, List.getElem?_eq_getElem hlt, (congrArg Node.kind (Option.some.inj hv)).symm⟩

end Arena

/-- The rules of a grammatical tree hold in an arena that lists it. -/
theorem ParseTree.Grammatical.callGrammar_of_flattens {a : Arena} {t : ParseTree}
    (h : t.Grammatical) (ha : a.Flattens t) : a.CallGrammar := by
  have hrule : ∀ {i : Nat} {s : ParseTree}, t.preorder[i]? = some s →
      Rule s.kind (s.children.map label) := fun hs =>
    (h.of_mem_preorder (List.mem_of_getElem? hs)).rule
  refine ⟨fun e x he hx => ?_, fun e f f' he hf hf' hfield hfield' => ?_, fun g c hg hc hlist => ?_⟩
  · obtain ⟨s, hs, hk⟩ := ha.exists_tree he
    obtain ⟨u, hu, hkind, hfield⟩ := ha.exists_child hs hx
    rcases (hrule hs).call hk _ (List.mem_map_of_mem hu) with hfunction | hargs
    · exact Or.inl (hfield.trans hfunction)
    · exact Or.inr ⟨u.kind, hkind, hargs⟩
  · obtain ⟨s, hs, hk⟩ := ha.exists_tree he
    have hone : (a.children e).countP (fun c => a.field? c == some .function) ≤ 1 := by
      have hcount := congrArg (List.countP fun p => p.2 == some .function) (ha.looks hs)
      rw [List.countP_map, List.countP_map] at hcount
      have hle := (hrule hs).function hk
      rw [List.countP_map] at hle
      exact (le_of_eq hcount).trans hle
    rw [List.countP_eq_length_filter] at hone
    exact Arena.eq_of_length_le_one hone (by simp [hf, hfield]) (by simp [hf', hfield'])
  · obtain ⟨k, hk, hgroup⟩ : ∃ k, a.kind? g = some k ∧
        (k = .argumentList ∨ k = .parenthesizedExpression) := by
      rcases hg with hg | hg
      · exact ⟨_, hg, Or.inl rfl⟩
      · exact ⟨_, hg, Or.inr rfl⟩
    obtain ⟨s, hs, rfl⟩ := ha.exists_tree hk
    obtain ⟨u, hu, hkind, -⟩ := ha.exists_child hs hc
    exact (hrule hs).group hgroup _ (List.mem_map_of_mem hu)
      (Option.some.inj (hkind.symm.trans hlist))

theorem ParseTree.Grammatical.callGrammar {t : ParseTree} (h : t.Grammatical) :
    (Arena.ofTree t).CallGrammar :=
  (h.prune false).callGrammar_of_flattens (Arena.flattens_ofTree t)

end Syntax

/-- A text with a decode chain in parentheses. -/
def decodedText : String := "eval((b64decode(x)))"

end PythonAudit
