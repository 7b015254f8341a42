import PythonAudit.Detector.Walk
import PythonAudit.Proofs.PreOrder

/-!
# Walks of arenas in pre-order

A walk works through a stack of nodes. In an arena in pre-order the nodes on the stack tile what has
not been visited yet, so the walk visits the nodes in the order of their numbers.

* `Walk.look` is what a walk does at one node, and `walkWith_eq` says that a walk does it at one
  node after the other, in whatever monad it acts;
* `Parents.upTo a k`, `Detector.upTo a d k`: the parents known and the state of a detector when the
  nodes before `k` have been visited in order, and `Context.during a id`: what a detector sees while
  it looks at node `id`;
* `walk_eq` says what a walk returns in these terms;
* `exists_reported` finds the nodes that a walk reports, when at most one report is made for each
  node;
* `get?_upTo` says that the parents of a node are known as soon as its owner has been visited;
* `Arena.SemanticParent` says what the semantic parent of a node is, and
  `semanticParent?_eq_some_iff` that it is found whenever the owners of all earlier nodes are known.
-/

namespace PythonAudit

open Syntax

/-! ### The walk in order -/

/-- The parents known when the nodes before a given one have been visited in order. -/
def Syntax.Parents.upTo (a : Arena) : Nat → Parents
  | 0 => Parents.unknown a.size
  | k + 1 => (Parents.upTo a k).assignAll (a.children k) k

/-- What a detector sees while it looks at a node. -/
def Syntax.Context.during (a : Arena) (id : Nat) : Context := ⟨a, Parents.upTo a (id + 1)⟩

/-- The state of a detector that has looked at the nodes before a given one in order. -/
def shownUpTo {δ : Type} (visit : Context → Nat → δ → δ) (a : Arena) (d : δ) : Nat → δ
  | 0 => d
  | k + 1 => visit (Context.during a k) k (shownUpTo visit a d k)

/-- A detector that has looked at the nodes before a given one in order. -/
def Detector.upTo (a : Arena) (d : Detector) (k : Nat) : Detector := shownUpTo Detector.visit a d k

theorem Detector.upTo_zero (a : Arena) (d : Detector) : d.upTo a 0 = d := rfl

theorem Detector.upTo_succ (a : Arena) (d : Detector) (k : Nat) :
    d.upTo a (k + 1) = (d.upTo a k).visit (Context.during a k) k := rfl

namespace Walk

variable {m : Type → Type} {δ : Type} [Monad m] {a : Arena} {len : Nat → Nat}

/-- What a walk does at one node: it records the parents of the children and shows the node to the
detectors. -/
def look (W : Walker m δ) (a : Arena) (s : Parents × List δ) (id : Nat) : m (Parents × List δ) := do
  let parents ← (a.children id).foldlM (fun p c => W.assign p c id) s.1
  let detectors ← s.2.mapM (W.visit ⟨a, parents⟩ id)
  return (parents, detectors)

theorem run_of_stack_nil (W : Walker m δ) {w : Walk δ} (h : w.stack = []) (n : Nat) :
    run W a n w = pure w := by
  cases n with
  | zero => rfl
  | succ n => rw [run, h]

/-- A stack that tiles the nodes from `k` on has `k` on top, and visiting it leaves a stack that
tiles the nodes from `k + 1` on. -/
theorem tiles_visit (h : a.PreOrdered len) {k : Nat} (hk : k < a.size) {stack : List Nat}
    (hstack : Tiles len k stack a.size) :
    ∃ rest, stack = k :: rest ∧ Tiles len (k + 1) (a.children k ++ rest) a.size := by
  cases stack with
  | nil =>
    cases hstack
    exact absurd hk (Nat.lt_irrefl _)
  | cons x rest =>
    obtain ⟨rfl, -, hrest⟩ := hstack
    exact ⟨rest, rfl, (h.children x hk).append hrest⟩

theorem tiles_start (h : a.PreOrdered len) (ds : List δ) :
    Tiles len 0 (start a ds).stack a.size := by
  have hroot := h.root
  unfold start
  split_ifs with h0
  · exact h0.symm
  · exact ⟨rfl, by omega, by rw [Nat.zero_add]; exact hroot⟩

variable [LawfulMonad m]

theorem run_add (W : Walker m δ) (j k : Nat) (w : Walk δ) :
    run W a (j + k) w = run W a j w >>= run W a k := by
  induction j generalizing w with
  | zero => rw [Nat.zero_add, run, pure_bind]
  | succ j ih =>
    cases hs : w.stack with
    | nil => rw [run_of_stack_nil W hs, run_of_stack_nil W hs, pure_bind, run_of_stack_nil W hs]
    | cons id rest => simp only [Nat.add_right_comm, run, hs, ih, bind_assoc]

theorem visit_eq (W : Walker m δ) (stack : List Nat) (p : Parents) (ds : List δ) (id : Nat)
    (rest : List Nat) :
    visit W a ⟨stack, p, ds⟩ id rest = do
      let s ← look W a (p, ds) id
      return ⟨a.children id ++ rest, s.1, s.2⟩ := by
  simp only [visit, look, bind_assoc, pure_bind]

/-- A stack that tiles the nodes from `lo` on makes the next `k` visits those of `lo`, `lo + 1` and
so on, and what is left of it tiles the others, whatever the walk does on its way. -/
theorem run_tiles (h : a.PreOrdered len) (W : Walker m δ) {k lo : Nat} (hk : lo + k ≤ a.size)
    {stack : List Nat} (hstack : Tiles len lo stack a.size) :
    ∃ left, Tiles len (lo + k) left a.size ∧ ∀ p ds, run W a k ⟨stack, p, ds⟩ = do
      let s ← (List.range' lo k).foldlM (look W a) (p, ds)
      return ⟨left, s.1, s.2⟩ := by
  induction k generalizing lo stack with
  | zero => exact ⟨stack, hstack, fun p ds => by simp [run]⟩
  | succ k ih =>
    obtain ⟨rest, rfl, hrest⟩ := tiles_visit h (by omega) hstack
    obtain ⟨left, hleft, hrun⟩ := ih (by omega) hrest
    refine ⟨left, by rwa [Nat.add_right_comm] at hleft, fun p ds => ?_⟩
    simp only [run, visit_eq, bind_assoc, pure_bind, hrun, List.range'_succ, List.foldlM_cons]

/-- After `k` visits the walk has looked at the nodes before `k`, in order, and its stack tiles the
others. -/
theorem run_start (h : a.PreOrdered len) (W : Walker m δ) (ds : List δ) {k : Nat}
    (hk : k ≤ a.size) :
    ∃ left, Tiles len k left a.size ∧ run W a k (start a ds) = do
      let s ← (List.range k).foldlM (look W a) (Parents.unknown a.size, ds)
      return ⟨left, s.1, s.2⟩ := by
  obtain ⟨left, hleft, hrun⟩ := run_tiles h W (k := k) (by omega) (tiles_start h ds)
  rw [Nat.zero_add] at hleft
  refine ⟨left, hleft, ?_⟩
  rw [List.range_eq_range']
  exact hrun _ _

/-- A walk has nothing left to visit as soon as it has made as many visits as there are nodes, and
not before. -/
theorem stack_run_start_eq_nil_iff (h : a.PreOrdered len) (W : Walker Id δ) (ds : List δ)
    (k : Nat) :
    (run W a k (start a ds)).run.stack = [] ↔ a.size ≤ k := by
  rcases Nat.lt_or_ge a.size k with hlt | hle
  · obtain ⟨j, rfl⟩ := Nat.exists_eq_add_of_lt hlt
    obtain ⟨left, hleft, hrun⟩ := run_start h W ds le_rfl
    rw [Nat.add_assoc, run_add, hrun]
    have hnil : left = [] := hleft.eq_nil_iff.2 rfl
    subst hnil
    exact iff_of_true (congrArg Walk.stack (congrArg Id.run (run_of_stack_nil W rfl (j + 1))))
      (by omega)
  · obtain ⟨left, hleft, hrun⟩ := run_start h W ds hle
    rw [hrun]
    exact hleft.eq_nil_iff.trans ⟨fun heq => by omega, fun hge => by omega⟩

end Walk

/-- A walk looks at the nodes in the order of their numbers. -/
theorem walkWith_eq {m : Type → Type} {δ : Type} [Monad m] [LawfulMonad m] {a : Arena}
    {len : Nat → Nat} (h : a.PreOrdered len) (W : Walker m δ) (ds : List δ) :
    walkWith W a ds = do
      let s ← (List.range a.size).foldlM (Walk.look W a) (Parents.unknown a.size, ds)
      return (s.1, ← s.2.mapM W.finalize) := by
  obtain ⟨left, -, hrun⟩ := Walk.run_start h W ds le_rfl
  simp only [walkWith, hrun, bind_assoc, pure_bind]

section Plain

variable {δ : Type} (visit : Context → Nat → δ → δ) (finalize : δ → δ) (a : Arena)

theorem look_plain (s : Parents × List δ) (id : Nat) :
    Walk.look (Walker.plain visit finalize) a s id =
      pure (s.1.assignAll (a.children id) id,
        s.2.map (visit ⟨a, s.1.assignAll (a.children id) id⟩ id)) := by
  simp only [Walk.look, Walker.plain, List.foldlM_pure, List.mapM_pure, pure_bind]
  rfl

/-- Detectors that only change their own state have looked at the nodes in order, each as if it were
alone. -/
theorem foldlM_look_plain (ds : List δ) (k : Nat) :
    (List.range k).foldlM (Walk.look (Walker.plain visit finalize) a) (Parents.unknown a.size, ds) =
      pure (Parents.upTo a k, ds.map fun d => shownUpTo visit a d k) := by
  induction k with
  | zero => simp [Parents.upTo, shownUpTo]
  | succ k ih =>
    rw [List.range_succ, List.foldlM_append, ih, pure_bind, List.foldlM_cons, look_plain, pure_bind,
      List.foldlM_nil, List.map_map]
    rfl

theorem walkWith_plain {len : Nat → Nat} (h : a.PreOrdered len) (ds : List δ) :
    walkWith (Walker.plain visit finalize) a ds =
      pure (Parents.upTo a a.size, ds.map fun d => finalize (shownUpTo visit a d a.size)) := by
  rw [walkWith_eq h, foldlM_look_plain, pure_bind]
  simp only [Walker.plain, List.mapM_pure, pure_bind, List.map_map]
  rfl

end Plain

/-- A walk visits the nodes in the order of their numbers, each while the parents of all nodes up to
it are known, and every detector works as if it were alone. -/
theorem walk_eq {a : Arena} {len : Nat → Nat} (h : a.PreOrdered len) (ds : List Detector) :
    walk a ds = (Parents.upTo a a.size, ds.map fun d => (d.upTo a a.size).finalize) := by
  rw [walk, walkWith_plain _ _ _ h]
  rfl

theorem filterMap_range_succ {β : Type} (g : Nat → Option β) (k : Nat) :
    (List.range (k + 1)).filterMap g = (List.range k).filterMap g ++ (g k).toList := by
  rw [List.range_succ, List.filterMap_append]
  cases hk : g k <;> simp [hk]

theorem forall₂_filterMap {β : Type} (g : Nat → Option β) (ids : List Nat) :
    List.Forall₂ (fun c b => g c = some b) (ids.filter fun c => (g c).isSome)
      (ids.filterMap g) := by
  induction ids with
  | nil => exact List.Forall₂.nil
  | cons c ids ih =>
    cases hc : g c with
    | none =>
      rw [List.filter_cons_of_neg (by simp [hc]), List.filterMap_cons_none hc]
      exact ih
    | some b =>
      rw [List.filter_cons_of_pos (by simp [hc]), List.filterMap_cons_some hc]
      exact List.Forall₂.cons hc ih

/-- The nodes with a report, in order, and their reports one by one. -/
theorem exists_reported {β : Type} (g : Nat → Option β) (size : Nat) :
    ∃ ids : List Nat, ids.Pairwise (· < ·) ∧ (∀ c, c ∈ ids ↔ c < size ∧ ∃ b, g c = some b) ∧
      List.Forall₂ (fun c b => g c = some b) ids ((List.range size).filterMap g) := by
  refine ⟨_, List.Pairwise.filter _ List.pairwise_lt_range, fun c => ?_, forall₂_filterMap g _⟩
  rw [List.mem_filter, List.mem_range, Option.isSome_iff_exists]

/-! ### Known parents -/

namespace Syntax

namespace Parents

theorem size_assign (p : Parents) (c q : Nat) : (p.assign c q).entries.size = p.entries.size := by
  rw [assign, Array.size_setIfInBounds]

theorem get?_assign (p : Parents) (c q x : Nat) :
    (p.assign c q).get? x = if x = c ∧ x < p.entries.size then some q else p.get? x := by
  rw [get?, assign, Array.getElem?_setIfInBounds, get?]
  by_cases hxc : x = c
  · subst hxc
    by_cases hx : x < p.entries.size
    · rw [if_pos rfl, if_pos hx, if_pos ⟨rfl, hx⟩, Option.join_some]
    · rw [if_pos rfl, if_neg hx, if_neg fun h => hx h.2, Array.getElem?_eq_none (by omega)]
  · rw [if_neg (Ne.symm hxc), if_neg fun h => hxc h.1]

theorem size_assignAll (p : Parents) (cs : List Nat) (q : Nat) :
    (p.assignAll cs q).entries.size = p.entries.size := by
  induction cs generalizing p with
  | nil => rfl
  | cons c cs ih =>
    rw [assignAll, List.foldl_cons]
    exact (ih _).trans (size_assign p c q)

theorem get?_assignAll (p : Parents) (cs : List Nat) (q x : Nat) :
    (p.assignAll cs q).get? x = if x ∈ cs ∧ x < p.entries.size then some q else p.get? x := by
  induction cs generalizing p with
  | nil => simp [assignAll]
  | cons c cs ih =>
    rw [assignAll, List.foldl_cons]
    refine (ih _).trans ?_
    rw [size_assign, get?_assign]
    by_cases hx : x < p.entries.size
    · by_cases hcs : x ∈ cs <;> simp [hx, hcs]
    · simp [hx]

theorem size_upTo (a : Arena) (k : Nat) : (upTo a k).entries.size = a.size := by
  induction k with
  | zero => rw [upTo, unknown, Array.size_replicate]
  | succ k ih => rw [upTo, size_assignAll, ih]

/-- The parent of a node is known once its owner has been visited, and it is the owner. -/
theorem get?_upTo {a : Arena} {len : Nat → Nat} (h : a.PreOrdered len) (k c p : Nat) :
    (upTo a k).get? c = some p ↔ p < k ∧ c ∈ a.children p := by
  induction k with
  | zero =>
    have hnone : (unknown a.size).get? c = none := by
      rw [get?, unknown, Array.getElem?_replicate]
      split_ifs <;> rfl
    rw [upTo, hnone]
    constructor
    · intro h0
      cases h0
    · rintro ⟨hlt, -⟩
      exact absurd hlt (Nat.not_lt_zero p)
  | succ k ih =>
    rw [upTo, get?_assignAll, size_upTo]
    split_ifs with hc
    · rw [Option.some.injEq]
      constructor
      · rintro rfl
        exact ⟨Nat.lt_succ_self k, hc.1⟩
      · rintro ⟨-, hp⟩
        exact h.owner_unique hc.1 hp
    · rw [ih]
      constructor
      · rintro ⟨hlt, hp⟩
        exact ⟨by omega, hp⟩
      · rintro ⟨hlt, hp⟩
        refine ⟨?_, hp⟩
        -- the owner is not `k`, whose children have just been assigned
        by_contra hge
        obtain rfl : p = k := by omega
        exact hc ⟨hp, h.child_lt_size hp⟩

end Parents

/-! ### Semantic parents -/

/-- The node only groups an expression. -/
def Arena.Groups (a : Arena) (id : Nat) : Prop :=
  a.kind? id = some .argumentList ∨ a.kind? id = some .parenthesizedExpression

/-- Going up from a node, `e` is the first node that does not only group an expression. -/
inductive Arena.SemanticParent (a : Arena) : Nat → Nat → Prop
  | owner {c e : Nat} : c ∈ a.children e → ¬ a.Groups e → SemanticParent a c e
  | through {c g e : Nat} : c ∈ a.children g → a.Groups g → SemanticParent a g e →
      SemanticParent a c e

namespace Context

theorem any_isGrouping_iff (a : Arena) (id : Nat) :
    (a.kind? id).any isGrouping = true ↔ a.Groups id := by
  rw [Arena.Groups]
  cases a.kind? id with
  | none => simp
  | some k => simp [isGrouping]

/-- The owners of all nodes up to a given one are known. -/
def Knows (x : Context) (id : Nat) : Prop :=
  ∀ c ≤ id, ∀ p, x.parent? c = some p ↔ c ∈ x.arena.children p

theorem knows_during {a : Arena} {len : Nat → Nat} (h : a.PreOrdered len) (id : Nat) :
    (during a id).Knows id := by
  intro c hc p
  rw [parent?, during, Parents.get?_upTo h]
  constructor
  · exact fun hp => hp.2
  · intro hp
    have := (h.child_bounds hp).1
    exact ⟨by omega, hp⟩

/-- An arena with the parents of all its nodes, as they are known after a walk. -/
def complete (a : Arena) : Context := ⟨a, Parents.upTo a a.size⟩

theorem knows_complete {a : Arena} {len : Nat → Nat} (h : a.PreOrdered len) (id : Nat) :
    (complete a).Knows id := by
  intro c _ p
  rw [parent?, complete, Parents.get?_upTo h]
  exact and_iff_right_of_imp Arena.lt_size_of_mem_children

/-- Among the ancestors that are listed the first one that does not group is the semantic parent. -/
theorem find?_ancestorsUpTo {x : Context} {len : Nat → Nat} (h : x.arena.PreOrdered len) {id : Nat}
    (hx : x.Knows id) (limit c e : Nat) (hlimit : c ≤ limit) (hc : c ≤ id) :
    (x.ancestorsUpTo limit c).find? (fun p => !((x.arena.kind? p).any isGrouping)) = some e ↔
      x.arena.SemanticParent c e := by
  induction limit generalizing c with
  | zero =>
    obtain rfl : c = 0 := by omega
    constructor
    · intro hnone
      cases hnone
    · rintro (⟨ho, -⟩ | ⟨ho, -, -⟩) <;> exact absurd ho (h.zero_not_mem_children _)
  | succ limit ih =>
    -- a parent has a smaller number, so one step less is enough for its own ancestors
    rw [ancestorsUpTo]
    cases hp : x.parent? c with
    | none =>
      constructor
      · intro hnone
        cases hnone
      · rintro (⟨ho, -⟩ | ⟨ho, -, -⟩) <;> rw [(hx c hc _).2 ho] at hp <;> cases hp
    | some p =>
      have howner := (hx c hc p).1 hp
      have hlt := (h.child_bounds howner).1
      by_cases hg : x.arena.Groups p
      · rw [List.find?_cons_of_neg (by simp [(any_isGrouping_iff x.arena p).2 hg]),
          ih p (by omega) (by omega)]
        constructor
        · exact Arena.SemanticParent.through howner hg
        · rintro (⟨ho, hng⟩ | ⟨ho, -, hup⟩)
          · exact absurd (h.owner_unique howner ho ▸ hg) hng
          · rwa [h.owner_unique howner ho]
      · rw [List.find?_cons_of_pos (by simpa [← any_isGrouping_iff] using hg), Option.some.injEq]
        constructor
        · rintro rfl
          exact Arena.SemanticParent.owner howner hg
        · rintro (⟨ho, -⟩ | ⟨ho, hg', -⟩)
          · exact h.owner_unique howner ho
          · exact absurd (h.owner_unique ho howner ▸ hg') hg

/-- The semantic parent is found whenever the owners of all nodes up to the given one are known. -/
theorem semanticParent?_eq_some_iff {x : Context} {len : Nat → Nat} (h : x.arena.PreOrdered len)
    {id : Nat} (hx : x.Knows id) (e : Nat) :
    x.semanticParent? id = some e ↔ x.arena.SemanticParent id e :=
  find?_ancestorsUpTo h hx id id e le_rfl le_rfl

end Context

end Syntax

end PythonAudit
