import PythonAudit.Proofs.StringShape
import PythonAudit.Syntax.Source

/-!
# The first fault of a tree

The search for the first fault takes trees from a list. It passes a tree without a fault as a whole,
and puts the children of a tree before the others when the fault is further below.

* `faulty_iff` says that a tree is faulty exactly when a node of it, named or not, stands for a
  fault;
* `SearchStep` is one round of the search and `Searches` any number of them; every round makes the
  list smaller (`SearchStep.sizes_lt`);
* `Reached t ts` says that the trees `ts` are all that is left of `t` in pre-order, and that no
  fault has been passed; a round keeps this (`Reached.step`), so every run does
  (`Reached.searches`);
* `exists_searches` says that the search stops at a fault, whenever there is one;
* `search_stops_at_first_fault` puts this together.
-/

namespace PythonAudit

namespace Syntax

namespace ParseTree

/-! ### Trees in pre-order -/

theorem preorders_append (ts us : List ParseTree) :
    preorders (ts ++ us) = preorders ts ++ preorders us := by
  induction ts with
  | nil => rfl
  | cons t ts ih => rw [List.cons_append, preorders, ih, preorders, List.append_assoc]

mutual

/-- A tree is faulty when one of its nodes stands for a fault. -/
theorem faulty_iff : (t : ParseTree) → (t.faulty = true ↔ ∃ s ∈ t.preorder, s.label.isFault = true)
  | node l cs => by
    rw [faulty, Bool.or_eq_true, anyFaulty_iff cs, preorder, List.exists_mem_cons_iff, label_node]

theorem anyFaulty_iff :
    (ts : List ParseTree) → (anyFaulty ts = true ↔ ∃ s ∈ preorders ts, s.label.isFault = true)
  | [] => by simp [anyFaulty, preorders]
  | t :: ts => by
    rw [anyFaulty, Bool.or_eq_true, faulty_iff t, anyFaulty_iff ts, preorders]
    simp only [List.mem_append, or_and_right, exists_or]

end

theorem anyFaulty_append (ts us : List ParseTree) :
    anyFaulty (ts ++ us) = (anyFaulty ts || anyFaulty us) := by
  induction ts with
  | nil => rfl
  | cons t ts ih => rw [List.cons_append, anyFaulty, ih, anyFaulty, Bool.or_assoc]

/-- A tree without a fault has none at any of its nodes. -/
theorem isFault_of_not_faulty {t s : ParseTree} (h : t.faulty = false) (hs : s ∈ t.preorder) :
    s.label.isFault = false := by
  rw [Bool.eq_false_iff] at h ⊢
  intro hfault
  exact h ((faulty_iff t).2 ⟨s, hs, hfault⟩)

/-! ### The search -/

/-- One round of the search, from the trees that wait to those that wait after it. There is no round
for a tree whose root stands for a fault, nor when no tree waits. -/
inductive SearchStep : List ParseTree → List ParseTree → Prop
  | pass {t : ParseTree} (ts : List ParseTree) : t.faulty = false → SearchStep (t :: ts) ts
  | enter {t : ParseTree} (ts : List ParseTree) :
      t.label.isFault = false → t.faulty = true → SearchStep (t :: ts) (t.children ++ ts)

/-- Some rounds lead from some trees that wait to others. -/
def Searches : List ParseTree → List ParseTree → Prop := Relation.ReflTransGen SearchStep

theorem SearchStep.sizes_lt {ts us : List ParseTree} (h : SearchStep ts us) :
    sizes us < sizes ts := by
  cases h with
  | @pass t ts _ =>
    cases t with
    | node l cs =>
      simp only [sizes, size]
      omega
  | @enter t ts _ _ =>
    cases t with
    | node l cs =>
      rw [children_node, sizes_append]
      simp only [sizes, size]
      omega

/-- The trees that wait are the rest of a tree in pre-order, and no fault comes before them. -/
def Reached (t : ParseTree) (ts : List ParseTree) : Prop :=
  ∃ passed, t.preorder = passed ++ preorders ts ∧ ∀ s ∈ passed, s.label.isFault = false

theorem reached_self (t : ParseTree) : Reached t [t] :=
  ⟨[], by simp [preorders], fun _ hs => absurd hs List.not_mem_nil⟩

theorem Reached.step {t : ParseTree} {ts us : List ParseTree} (h : Reached t ts)
    (hstep : SearchStep ts us) :
    Reached t us := by
  obtain ⟨passed, hpre, hpassed⟩ := h
  cases hstep with
  | @pass u us hclean =>
    -- the whole tree is passed, and there is no fault in it
    refine ⟨passed ++ u.preorder, by rw [hpre, preorders, List.append_assoc], fun s hs => ?_⟩
    rcases List.mem_append.1 hs with hs | hs
    · exact hpassed s hs
    · exact isFault_of_not_faulty hclean hs
  | @enter u us hroot _ =>
    -- only the root is passed
    refine ⟨passed ++ [u], ?_, fun s hs => ?_⟩
    · rw [hpre, preorders, preorder_eq, preorders_append, List.append_assoc, List.singleton_append,
        List.cons_append]
    · rcases List.mem_append.1 hs with hs | hs
      · exact hpassed s hs
      · rwa [List.mem_singleton.1 hs]

theorem Reached.searches {t : ParseTree} {ts us : List ParseTree} (h : Reached t ts)
    (hruns : Searches ts us) :
    Reached t us := by
  induction hruns with
  | refl => exact h
  | tail _ hstep ih => exact ih.step hstep

/-- As long as nothing but other nodes has been passed, a faulty tree has a fault that waits. -/
theorem Reached.anyFaulty {t : ParseTree} {ts : List ParseTree} (h : Reached t ts)
    (ht : t.faulty = true) :
    anyFaulty ts = true := by
  obtain ⟨passed, hpre, hpassed⟩ := h
  obtain ⟨s, hs, hfault⟩ := (faulty_iff t).1 ht
  rw [hpre] at hs
  rcases List.mem_append.1 hs with hs | hs
  · rw [hpassed s hs] at hfault
    cases hfault
  · exact (anyFaulty_iff ts).2 ⟨s, hs, hfault⟩

/-- The search goes on to a tree whose root stands for a fault, when there is one, and answers with
it. -/
theorem exists_searches {ts : List ParseTree} (h : ParseTree.anyFaulty ts = true) :
    ∃ first rest, Searches ts (first :: rest) ∧ first.label.isFault = true ∧
      firstFault? ts = some first.label := by
  induction ts using firstFault?.induct with
  | case1 => cases h
  | case2 l cs ts hfault =>
    exact ⟨node l cs, ts, .refl, hfault, by rw [firstFault?, if_pos hfault, label_node]⟩
  | case3 l cs ts hroot hfaulty ih =>
    rw [Bool.not_eq_true] at hroot
    have hchildren : ParseTree.anyFaulty (cs ++ ts) = true := by
      rw [anyFaulty_append, Bool.or_eq_true]
      rw [faulty, hroot, Bool.false_or] at hfaulty
      exact Or.inl hfaulty
    obtain ⟨first, rest, hruns, hfirst, heq⟩ := ih hchildren
    refine ⟨first, rest, .head (.enter ts hroot hfaulty) hruns, hfirst, ?_⟩
    rw [firstFault?, hroot, if_neg Bool.false_ne_true, if_pos hfaulty, heq]
  | case4 l cs ts hroot hclean ih =>
    rw [Bool.not_eq_true] at hroot hclean
    have hrest : ParseTree.anyFaulty ts = true := by
      rwa [ParseTree.anyFaulty, hclean, Bool.false_or] at h
    obtain ⟨first, rest, hruns, hfirst, heq⟩ := ih hrest
    refine ⟨first, rest, .head (.pass ts hclean) hruns, hfirst, ?_⟩
    rw [firstFault?, hroot, if_neg Bool.false_ne_true, hclean, if_neg Bool.false_ne_true, heq]

end ParseTree

/-- **The search stops at the first fault in pre-order**, and the error of the tree is about that
node. -/
theorem search_stops_at_first_fault (t : ParseTree) (h : t.faulty = true) :
    (∀ s : ParseTree, s.faulty = true ↔
      ∃ n ∈ s.preorder, n.label.missing = true ∨ n.label.kind = .error) ∧
    (∀ ts, ParseTree.Searches [t] ts →
      ts ≠ [] ∧ (∀ us, ParseTree.SearchStep ts us → ParseTree.sizes us < ParseTree.sizes ts) ∧
      ∃ passed, t.preorder = passed ++ ParseTree.preorders ts ∧ ∀ s ∈ passed,
        s.label.isFault = false) ∧
    ∃ passed first rest waiting,
      t.preorder = passed ++ first :: rest ∧ (∀ s ∈ passed, s.label.isFault = false) ∧
      (first.label.missing = true ∨ first.label.kind = .error) ∧
      ParseTree.Searches [t] (first :: waiting) ∧ ParseTree.firstFault? [t] = some first.label ∧
      t.error =
        ⟨if first.label.missing then "missing '" ++ first.label.kindName ++ "'"
         else "invalid syntax",
          first.label.extent.start.row + 1, first.label.extent.start.column⟩ ∧
      ∀ text, ParseTree.ofText text = t → parse text = .error t.error := by
  have hfault : ∀ l : Label, l.isFault = true ↔ l.missing = true ∨ l.kind = .error := by
    intro l
    rw [Label.isFault, Bool.or_eq_true, beq_iff_eq]
  have hreached : ∀ {ts}, ParseTree.Searches [t] ts → ParseTree.Reached t ts := fun hruns =>
    (ParseTree.reached_self t).searches hruns
  refine ⟨fun s => by simp only [ParseTree.faulty_iff, hfault],
    fun ts hruns => ⟨?_, fun us => ?_, hreached hruns⟩, ?_⟩
  · rintro rfl
    cases (hreached hruns).anyFaulty h
  · exact ParseTree.SearchStep.sizes_lt
  · obtain ⟨first, waiting, hruns, hfirst, hanswer⟩ :=
      ParseTree.exists_searches ((ParseTree.reached_self t).anyFaulty h)
    obtain ⟨passed, hpre, hpassed⟩ := hreached hruns
    rw [ParseTree.preorders, ParseTree.preorder_eq first, List.cons_append] at hpre
    refine ⟨passed, first, _, waiting, hpre, hpassed, (hfault _).1 hfirst, hruns, hanswer, ?_, ?_⟩
    · rw [ParseTree.error, hanswer]
      show first.label.faultError = _
      rw [Label.faultError]
      split_ifs <;> rfl
    · rintro text rfl
      rw [parse, if_pos h]

/-- A label for the text from one place to another one in the same row. -/
def Label.inRow (kind : Kind) (row start stop : Nat) (text : String) : Label :=
  { kind, extent := ⟨⟨row, start⟩, ⟨row, stop⟩⟩, text }

/-- A tree with a bracket that was supplied at the end of its second row, and an error in the third
one. -/
def unclosedBracket : ParseTree :=
  .node (.inRow .program 0 0 4 "") [
    .node (.inRow .passStatement 0 0 4 "")
      [.node { Label.inRow .token 0 0 4 "pass" with named := false } []],
    .node (.inRow .expressionStatement 1 0 5 "") [
      .node (.inRow .call 1 0 5 "") [
        .node (.inRow .identifier 1 0 4 "exec") [],
        .node (.inRow .argumentList 1 4 5 "") [
          .node { Label.inRow .token 1 4 5 "(" with named := false } [],
          .node { Label.inRow .token 1 5 5 ")" with named := false, missing := true } []]]],
    .node (.inRow .error 2 0 3 "") []]

/-- The supplied bracket has no name, and it comes before the error. -/
theorem unclosedBracket_error :
    unclosedBracket.faulty = true ∧ unclosedBracket.error = ⟨"missing ')'", 2, 5⟩ := by
  have hfaulty : unclosedBracket.faulty = true := by decide
  obtain ⟨-, -, passed, first, rest, waiting, -, -, -, -, hanswer, herror, -⟩ :=
    search_stops_at_first_fault unclosedBracket hfaulty
  have hfirst : ParseTree.firstFault? [unclosedBracket] =
      some { Label.inRow .token 1 5 5 ")" with named := false, missing := true } := by
    decide +kernel
  rw [hfirst, Option.some.injEq] at hanswer
  refine ⟨hfaulty, ?_⟩
  rw [herror, ← hanswer]
  decide

end Syntax

end PythonAudit
