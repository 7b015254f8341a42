import PythonAudit.Proofs.PreOrder
import PythonAudit.Syntax.Name

/-!
# The dotted names of an arena

* `Arena.Spells a i ss` is the grammar of dotted names: an identifier, an attribute of a dotted
  name, and a dotted name in parentheses, where `ss` are the segments in source order;
* `Arena.fetchSegments` is the search for the segments with every look-up outside the arena and
  every endless search made a fault; `fetchSegments_eq` says that in a pre-ordered arena it meets no
  fault;
* `segments?_eq_some_iff` says that the search finds exactly the dotted names;
* `Arena.Calls a i name` says that a call calls a function by a dotted name.
-/

namespace PythonAudit

namespace Syntax

namespace Arena

/-- The node spells a dotted name with these segments, in source order. -/
inductive Spells (a : Arena) : Nat → List String → Prop
  | identifier {i : Nat} {s : String} :
      a.kind? i = some .identifier → a.text? i = some s → Spells a i [s]
  | member {i o m : Nat} {ss : List String} {s : String} :
      a.kind? i = some .attributeAccess → a.childBy? i .object = some o →
        a.childBy? i .member = some m →
        Spells a o ss → a.text? m = some s → Spells a i (ss ++ [s])
  | parenthesized {i c : Nat} {ss : List String} :
      a.kind? i = some .parenthesizedExpression → a.children i = [c] → Spells a c ss → Spells a i ss

/-- The node is a call of a function with the given dotted name. -/
def Calls (a : Arena) (i : Nat) (name : String) : Prop :=
  a.kind? i = some .call ∧
    ∃ f ss, a.childBy? i .function = some f ∧ a.Spells f ss ∧ name = ".".intercalate ss

/-! ### The search with its faults -/

/-- What could stop a search in an arena: a number outside it, or that the search has no end. -/
inductive Fault where
  | outside (id : Nat)
  | endless
deriving DecidableEq, Repr

/-- The node with a given number; a number outside the arena is a fault. -/
def fetch (a : Arena) (id : Nat) : Except Fault Node :=
  match a.node? id with
  | some n => .ok n
  | none => .error (.outside id)

/-- The first of some children in a given role. -/
def fetchChildBy (a : Arena) (f : Field) : List Nat → Except Fault (Option Nat)
  | [] => .ok none
  | c :: cs => do
    let n ← a.fetch c
    if n.field == some f then return some c else a.fetchChildBy f cs

/-- The segments of the dotted name that a node spells, last segment first. -/
def fetchSegments (a : Arena) : Nat → Nat → Except Fault (Option (List String))
  | 0, _ => .error .endless
  | fuel + 1, id => do
    let n ← a.fetch id
    match n.kind with
    | .identifier => return n.text.map ([·])
    | .attributeAccess =>
      let some m ← a.fetchChildBy .member n.children | return none
      let some s := (← a.fetch m).text | return none
      let some o ← a.fetchChildBy .object n.children | return none
      return (← a.fetchSegments fuel o).map (s :: ·)
    | .parenthesizedExpression =>
      match n.children with
      | [c] => a.fetchSegments fuel c
      | _ => return none
    | _ => return none

theorem ok_bind {α β : Type} (x : α) (k : α → Except Fault β) : (Except.ok x >>= k) = k x := rfl

section PreOrdered

variable {a : Arena} {len : Nat → Nat}

theorem node?_of_lt {i : Nat} (h : i < a.size) : ∃ n, a.node? i = some n :=
  ⟨_, Array.getElem?_eq_getElem h⟩

theorem kind?_eq_some_iff {i : Nat} {k : Kind} :
    a.kind? i = some k ↔ ∃ n, a.node? i = some n ∧ n.kind = k :=
  Option.map_eq_some_iff

theorem text?_of_node? {i : Nat} {n : Node} (h : a.node? i = some n) : a.text? i = n.text := by
  rw [text?, h, Option.bind_some]

theorem mem_children_of_childBy? {i c : Nat} {f : Field} (h : a.childBy? i f = some c) :
    c ∈ a.children i :=
  List.mem_of_find?_eq_some h

theorem fetch_of_node? {i : Nat} {n : Node} (h : a.node? i = some n) : a.fetch i = .ok n := by
  rw [fetch, h]

/-- Looking through children of the arena meets no fault. -/
theorem fetchChildBy_eq (f : Field) {cs : List Nat} (h : ∀ c ∈ cs, c < a.size) :
    a.fetchChildBy f cs = .ok (cs.find? fun c => (a.node? c).any fun n => n.field == some f) := by
  induction cs with
  | nil => rfl
  | cons c cs ih =>
    obtain ⟨n, hn⟩ := node?_of_lt (h c List.mem_cons_self)
    have hrest := ih fun c' hc' => h c' (List.mem_cons_of_mem c hc')
    rw [fetchChildBy, fetch_of_node? hn, ok_bind, List.find?_cons, hn, Option.any_some]
    cases hf : n.field == some f with
    | true => rfl
    | false =>
      rw [if_neg Bool.false_ne_true]
      exact hrest

theorem fetchChildBy_children (h : a.PreOrdered len) {i : Nat} {n : Node} (hn : a.node? i = some n)
    (f : Field) : a.fetchChildBy f n.children = .ok (a.childBy? i f) := by
  rw [childBy?, children_of_node? hn]
  refine fetchChildBy_eq f fun c hc => ?_
  rw [← children_of_node? hn] at hc
  exact h.child_lt_size hc

/-! ### The search, one kind of node at a time -/

variable {fuel i : Nat} {n : Node}

theorem segmentsWith_identifier (hn : a.node? i = some n) (hk : n.kind = .identifier) :
    a.segmentsWith (fuel + 1) i = n.text.map ([·]) := by
  rw [segmentsWith, hn]
  simp only [hk]

theorem segmentsWith_attribute (hn : a.node? i = some n) (hk : n.kind = .attributeAccess) :
    a.segmentsWith (fuel + 1) i =
      match (a.childBy? i .member).bind a.text?, a.childBy? i .object with
      | some s, some o => (a.segmentsWith fuel o).map (s :: ·)
      | _, _ => none := by
  obtain ⟨kind, _, _, _, _, _, _⟩ := n
  obtain rfl : kind = _ := hk
  rewrite [segmentsWith, hn]
  rfl

theorem segmentsWith_parenthesized (hn : a.node? i = some n)
    (hk : n.kind = .parenthesizedExpression) :
    a.segmentsWith (fuel + 1) i =
      match n.children with
      | [c] => a.segmentsWith fuel c
      | _ => none := by
  obtain ⟨kind, _, _, _, _, _, _⟩ := n
  obtain rfl : kind = _ := hk
  rewrite [segmentsWith, hn]
  rfl

theorem segmentsWith_other (hn : a.node? i = some n) (h₁ : n.kind ≠ .identifier)
    (h₂ : n.kind ≠ .attributeAccess) (h₃ : n.kind ≠ .parenthesizedExpression) :
    a.segmentsWith (fuel + 1) i = none := by
  rw [segmentsWith, hn]
  simp only

theorem fetchSegments_attribute (h : a.PreOrdered len) (hn : a.node? i = some n)
    (hk : n.kind = .attributeAccess)
    (hrest : ∀ o ∈ a.children i, a.fetchSegments fuel o = .ok (a.segmentsWith fuel o)) :
    a.fetchSegments (fuel + 1) i = .ok (a.segmentsWith (fuel + 1) i) := by
  rw [segmentsWith_attribute hn hk, fetchSegments, fetch_of_node? hn, ok_bind]
  simp only [hk, fetchChildBy_children h hn, ok_bind]
  cases hm : a.childBy? i .member with
  | none => rfl
  | some m =>
    obtain ⟨nm, hnm⟩ := node?_of_lt (h.child_lt_size (mem_children_of_childBy? hm))
    simp only [fetch_of_node? hnm, ok_bind, Option.bind_some, text?_of_node? hnm]
    cases nm.text with
    | none => rfl
    | some s =>
      cases ho : a.childBy? i .object with
      | none => rfl
      | some o =>
        simp only [hrest o (mem_children_of_childBy? ho)]
        rfl

/-- With enough steps for the numbers that are left, the search meets no fault. -/
theorem fetchSegments_eq (h : a.PreOrdered len) (fuel i : Nat) (hi : i < a.size)
    (hfuel : a.size ≤ fuel + i) : a.fetchSegments fuel i = .ok (a.segmentsWith fuel i) := by
  induction fuel generalizing i with
  | zero => omega
  | succ fuel ih =>
    obtain ⟨n, hn⟩ := node?_of_lt hi
    -- a child has a larger number, so one step less is enough for it
    have hrest : ∀ c ∈ a.children i, a.fetchSegments fuel c = .ok (a.segmentsWith fuel c) := by
      intro c hc
      have := (h.child_bounds hc).1
      exact ih c (h.child_lt_size hc) (by omega)
    by_cases h₂ : n.kind = .attributeAccess
    · exact fetchSegments_attribute h hn h₂ hrest
    rw [fetchSegments, fetch_of_node? hn, ok_bind]
    by_cases h₁ : n.kind = .identifier
    · rw [segmentsWith_identifier hn h₁]
      simp only [h₁]
      rfl
    by_cases h₃ : n.kind = .parenthesizedExpression
    · rw [segmentsWith_parenthesized hn h₃]
      rw [children_of_node? hn] at hrest
      simp only [h₃]
      split
      next c hc => exact hrest c (by rw [hc]; exact List.mem_cons_self)
      next => rfl
    · rw [segmentsWith_other hn h₁ h₂ h₃]
      split
      next hk => exact absurd hk h₁
      next hk => exact absurd hk h₂
      next hk => exact absurd hk h₃
      next => rfl

/-! ### The search finds the dotted names -/

/-- What the search finds is a dotted name. -/
theorem spells_of_segmentsWith {ss : List String} (hs : a.segmentsWith fuel i = some ss) :
    a.Spells i ss.reverse := by
  induction fuel generalizing i ss with
  | zero =>
    rw [segmentsWith] at hs
    cases hs
  | succ fuel ih =>
    cases hn : a.node? i with
    | none =>
      rw [segmentsWith, hn] at hs
      cases hs
    | some n =>
      by_cases h₁ : n.kind = .identifier
      · rw [segmentsWith_identifier hn h₁] at hs
        obtain ⟨s, ht, rfl⟩ := Option.map_eq_some_iff.1 hs
        exact Spells.identifier (kind?_eq_some_iff.2 ⟨n, hn, h₁⟩) (by rw [text?_of_node? hn, ht])
      by_cases h₂ : n.kind = .attributeAccess
      · rw [segmentsWith_attribute hn h₂] at hs
        split at hs
        next s o htext ho =>
          obtain ⟨m, hm, hs'⟩ := Option.bind_eq_some_iff.1 htext
          obtain ⟨rs, hrs, rfl⟩ := Option.map_eq_some_iff.1 hs
          rw [List.reverse_cons]
          exact Spells.member (kind?_eq_some_iff.2 ⟨n, hn, h₂⟩) ho hm (ih hrs) hs'
        next => cases hs
      by_cases h₃ : n.kind = .parenthesizedExpression
      · rw [segmentsWith_parenthesized hn h₃] at hs
        split at hs
        next c hc =>
          exact Spells.parenthesized (kind?_eq_some_iff.2 ⟨n, hn, h₃⟩)
            (by rw [children_of_node? hn, hc]) (ih hs)
        next => cases hs
      · rw [segmentsWith_other hn h₁ h₂ h₃] at hs
        cases hs

theorem exists_fuel_eq_succ (hn : a.node? i = some n) (hfuel : a.size ≤ fuel + i) :
    ∃ f, fuel = f + 1 := by
  have hi := lt_size_of_node? hn
  exact ⟨fuel - 1, by omega⟩

/-- Every dotted name is found, with enough steps for the numbers that are left. -/
theorem segmentsWith_of_spells (h : a.PreOrdered len) {ss : List String} (hs : a.Spells i ss)
    (hfuel : a.size ≤ fuel + i) : a.segmentsWith fuel i = some ss.reverse := by
  induction hs generalizing fuel with
  | @identifier i s hk ht =>
    obtain ⟨n, hn, hk⟩ := kind?_eq_some_iff.1 hk
    obtain ⟨fuel, rfl⟩ := exists_fuel_eq_succ hn hfuel
    rw [segmentsWith_identifier hn hk, ← text?_of_node? hn, ht]
    rfl
  | @member i o m ss s hk ho hm _ ht ih =>
    obtain ⟨n, hn, hk⟩ := kind?_eq_some_iff.1 hk
    obtain ⟨fuel, rfl⟩ := exists_fuel_eq_succ hn hfuel
    have hlt := (h.child_bounds (mem_children_of_childBy? ho)).1
    have hrest := @ih fuel (by omega)
    rw [segmentsWith_attribute hn hk, hm, ho, Option.bind_some, ht]
    simp only [hrest, Option.map_some, List.reverse_append, List.reverse_singleton,
      List.singleton_append]
  | @parenthesized i c ss hk hc _ ih =>
    obtain ⟨n, hn, hk⟩ := kind?_eq_some_iff.1 hk
    obtain ⟨fuel, rfl⟩ := exists_fuel_eq_succ hn hfuel
    have hlt := (h.child_bounds (show c ∈ a.children i by rw [hc]; exact List.mem_cons_self)).1
    rw [segmentsWith_parenthesized hn hk, ← children_of_node? hn, hc]
    exact ih (by omega)

/-- The search finds exactly the dotted names. -/
theorem segments?_eq_some_iff (h : a.PreOrdered len) (i : Nat) (ss : List String) :
    a.segments? i = some ss ↔ a.Spells i ss := by
  rw [segments?, Option.map_eq_some_iff]
  constructor
  · rintro ⟨rs, hrs, rfl⟩
    exact spells_of_segmentsWith hrs
  · intro hs
    exact ⟨ss.reverse, segmentsWith_of_spells h hs (Nat.le_add_right a.size i),
      List.reverse_reverse ss⟩

theorem qualifiedName?_eq_some_iff (h : a.PreOrdered len) (i : Nat) (name : String) :
    a.qualifiedName? i = some name ↔ ∃ ss, a.Spells i ss ∧ name = ".".intercalate ss := by
  rw [qualifiedName?, Option.map_eq_some_iff]
  constructor
  · rintro ⟨ss, hss, rfl⟩
    exact ⟨ss, (segments?_eq_some_iff h i ss).1 hss, rfl⟩
  · rintro ⟨ss, hss, rfl⟩
    exact ⟨ss, (segments?_eq_some_iff h i ss).2 hss, rfl⟩

/-- No name is found exactly where the grammar has none. -/
theorem qualifiedName?_eq_none_iff (h : a.PreOrdered len) (i : Nat) :
    a.qualifiedName? i = none ↔ ¬ ∃ ss, a.Spells i ss := by
  rw [Option.eq_none_iff_forall_ne_some]
  constructor
  · rintro hnone ⟨ss, hss⟩
    exact hnone _ ((qualifiedName?_eq_some_iff h i _).2 ⟨ss, hss, rfl⟩)
  · intro hno name hname
    obtain ⟨ss, hss, -⟩ := (qualifiedName?_eq_some_iff h i name).1 hname
    exact hno ⟨ss, hss⟩

theorem isKind_iff (a : Arena) (i : Nat) (k : Kind) : a.isKind i k = true ↔ a.kind? i = some k := by
  rw [isKind, beq_iff_eq]

/-- The callee that is found is the dotted name that is called. -/
theorem callee?_eq_some_iff (h : a.PreOrdered len) (i : Nat) (name : String) :
    a.callee? i = some name ↔ a.Calls i name := by
  rw [callee?, Calls, ← isKind_iff]
  split_ifs with hk
  · rw [Option.bind_eq_some_iff]
    constructor
    · rintro ⟨f, hf, hname⟩
      obtain ⟨ss, hss, rfl⟩ := (qualifiedName?_eq_some_iff h f name).1 hname
      exact ⟨hk, f, ss, hf, hss, rfl⟩
    · rintro ⟨-, f, ss, hf, hss, rfl⟩
      exact ⟨f, hf, (qualifiedName?_eq_some_iff h f _).2 ⟨ss, hss, rfl⟩⟩
  · constructor
    · intro hnone
      cases hnone
    · rintro ⟨hcall, -⟩
      exact absurd hcall hk

end PreOrdered

end Arena

end Syntax

end PythonAudit
