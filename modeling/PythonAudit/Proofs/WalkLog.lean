import PythonAudit.Proofs.Kept
import PythonAudit.Proofs.Walk

/-!
# What happens on a walk

The walk is watched: every step is written down, and a parent that is recorded outside the table, or
twice for one node, stops it.

* `Parents.assignNew` records a parent where none is recorded yet, and nowhere else;
* `Event` is one thing that happens, and `Walker.watched` writes down what happens to detectors of
  any kind, which are told apart by their places in the order of registration;
* `Arena.walkLog a n` is the log of a walk of `a` with `n` detectors, node after node, and
  `does_walkWith` says that a watched walk leaves this log, is never stopped, and ends like a walk
  that is not watched;
* `walkLog_pairwise` says that no parent is recorded twice, or for a node that has been visited;
* `walk_events_of_tree` collects this for the arena of every tree.
-/

namespace PythonAudit

open Syntax

/-! ### Watching -/

/-- What could go wrong when a parent is recorded: the child is not in the table, or has a parent
already. -/
inductive Syntax.Parents.Fault where
  | outside (child : Nat)
  | assigned (child parent : Nat)
deriving DecidableEq, Repr

/-- Records a parent for a node of the table that has none yet. -/
def Syntax.Parents.assignNew (p : Parents) (child parent : Nat) : Except Parents.Fault Parents :=
  if child < p.entries.size then
    match p.get? child with
    | none => .ok (p.assign child parent)
    | some q => .error (.assigned child q)
  else .error (.outside child)

/-- One thing that happens on a walk. Detectors are given by their places. -/
inductive Event where
  | assign (child parent : Nat)
  | visit (detector id : Nat)
  | finalize (detector : Nat)
deriving DecidableEq, Repr

/-- Something happens to a detector. -/
def Event.ofDetector : Event → Bool
  | assign _ _ => false
  | visit _ _ => true
  | finalize _ => true

/-- Steps that write down what happens, until a fault stops them. -/
abbrev Watched := StateT (List Event) (Except Parents.Fault)

/-- Writes down that something happens. -/
def note (e : Event) : Watched Unit := modify (· ++ [e])

/-- A watched walk of detectors that do nothing but change their own state. -/
def Walker.watched {δ : Type} (visit : Context → Nat → δ → δ) (finalize : δ → δ) :
    Walker Watched (δ × Nat) where
  assign p child parent := do
    note (.assign child parent)
    liftM (p.assignNew child parent)
  visit x id d := do
    note (.visit d.2 id)
    return (visit x id d.1, d.2)
  finalize d := do
    note (.finalize d.2)
    return (finalize d.1, d.2)

/-- What happens at one node: its children get their parent, and then every detector looks at it. -/
def Syntax.Arena.eventsAt (a : Arena) (n id : Nat) : List Event :=
  (a.children id).map (.assign · id) ++ (List.range n).map (.visit · id)

/-- What happens on a walk with a number of detectors. -/
def Syntax.Arena.walkLog (a : Arena) (n : Nat) : List Event :=
  (List.range a.size).flatMap (a.eventsAt n) ++ (List.range n).map .finalize

/-! ### Steps that are not stopped -/

/-- The steps are not stopped: they end with the value `r`, and what happens is `es`. -/
def Watched.Does {α : Type} (x : Watched α) (r : α) (es : List Event) : Prop :=
  ∀ l, x.run l = .ok (r, l ++ es)

namespace Watched.Does

variable {α β : Type}

theorem pure (r : α) : Does (Pure.pure r) r [] := by
  intro l
  rw [List.append_nil]
  rfl

theorem note (e : Event) : Does (note e) () [e] := fun _ => rfl

theorem lift {x : Except Parents.Fault α} {r : α} (h : x = .ok r) : Does (liftM x) r [] := by
  intro l
  rw [h, List.append_nil]
  rfl

theorem bind {x : Watched α} {k : α → Watched β} {r : α} {s : β} {es fs : List Event}
    (hx : Does x r es) (hk : Does (k r) s fs) : Does (x >>= k) s (es ++ fs) := by
  intro l
  rw [StateT.run_bind, hx l, ← List.append_assoc]
  exact hk (l ++ es)

theorem bind_pure {x : Watched α} {r : α} {es : List Event} (hx : Does x r es) (g : α → β) :
    Does (x >>= fun a => Pure.pure (g a)) (g r) es := by
  have h := hx.bind (k := fun a => Pure.pure (g a)) (Does.pure (g r))
  rwa [List.append_nil] at h

end Watched.Does

section Steps

open Watched (Does)

variable {δ : Type} (visit : Context → Nat → δ → δ) (finalize : δ → δ)

theorem does_assign {p : Parents} {c : Nat} (hc : c < p.entries.size) (hnone : p.get? c = none)
    (q : Nat) :
    Does ((Walker.watched visit finalize).assign p c q) (p.assign c q) [.assign c q] := by
  have hok : p.assignNew c q = .ok (p.assign c q) := by rw [Parents.assignNew, if_pos hc, hnone]
  exact (Does.note _).bind (Does.lift hok)

/-- Several nodes without a parent get one. -/
theorem does_assignAll {p : Parents} {cs : List Nat} (hnodup : cs.Nodup)
    (hsize : ∀ c ∈ cs, c < p.entries.size) (hnone : ∀ c ∈ cs, p.get? c = none) (q : Nat) :
    Does (cs.foldlM (fun p c => (Walker.watched visit finalize).assign p c q) p) (p.assignAll cs q)
      (cs.map (.assign · q)) := by
  induction cs generalizing p with
  | nil => exact Does.pure p
  | cons c cs ih =>
    obtain ⟨hc, hcs⟩ := List.nodup_cons.1 hnodup
    have hfirst :=
      does_assign visit finalize (hsize c List.mem_cons_self) (hnone c List.mem_cons_self) q
    rw [List.foldlM_cons]
    refine hfirst.bind (ih hcs (fun x hx => ?_) (fun x hx => ?_))
    · rw [Parents.size_assign]
      exact hsize x (List.mem_cons_of_mem c hx)
    · -- `x` is still without a parent, since it is not `c`
      have hxc : ¬ (x = c ∧ x < p.entries.size) := fun h => hc (h.1 ▸ hx)
      rw [Parents.get?_assign, if_neg hxc]
      exact hnone x (List.mem_cons_of_mem c hx)

/-- What happens to one detector after the other is written down in their order. -/
theorem does_mapM (f : δ → δ) (event : Nat → Event) (ds : List δ) (first : Nat) :
    Does ((ds.zipIdx first).mapM fun d => do note (event d.2); return (f d.1, d.2))
      ((ds.map f).zipIdx first)
      ((List.range' first ds.length).map event) := by
  induction ds generalizing first with
  | nil => exact Does.pure []
  | cons d ds ih =>
    rw [List.zipIdx_cons, List.mapM_cons, List.length_cons, List.range'_succ]
    have hfirst : Does (do note (event first); return (f d, first)) (f d, first) [event first] :=
      (Does.note _).bind (Does.pure _)
    exact hfirst.bind ((ih (first + 1)).bind_pure fun rest => (f d, first) :: rest)

variable {a : Arena} {len : Nat → Nat}

/-- At a node whose number is `k` a walk that has looked at the nodes before it is not stopped. -/
theorem does_look (h : a.PreOrdered len) (ds : List δ) (k : Nat) :
    Does (Walk.look (Walker.watched visit finalize) a (Parents.upTo a k, ds.zipIdx) k)
      (Parents.upTo a (k + 1), (ds.map (visit (Context.during a k) k)).zipIdx)
        (a.eventsAt ds.length k) := by
  have hnodup : (a.children k).Nodup := (h.children_pairwise_lt k).imp fun hlt => Nat.ne_of_lt hlt
  have hsize : ∀ c ∈ a.children k, c < (Parents.upTo a k).entries.size := by
    intro c hc
    rw [Parents.size_upTo]
    exact h.child_lt_size hc
  have hnone : ∀ c ∈ a.children k, (Parents.upTo a k).get? c = none := by
    intro c hc
    rw [Option.eq_none_iff_forall_not_mem]
    intro p hp
    -- the only owner of `c` is `k` itself
    obtain ⟨hlt, howner⟩ := (Parents.get?_upTo h k c p).1 hp
    exact absurd (h.owner_unique howner hc) (Nat.ne_of_lt hlt)
  have hassign := does_assignAll visit finalize hnodup hsize hnone k
  have hvisit := does_mapM (visit (Context.during a k) k) (.visit · k) ds 0
  rw [← List.range_eq_range'] at hvisit
  exact hassign.bind (hvisit.bind_pure fun ds' => (Parents.upTo a (k + 1), ds'))

theorem does_foldlM_look (h : a.PreOrdered len) (ds : List δ) (k : Nat) :
    Does
      ((List.range k).foldlM (Walk.look (Walker.watched visit finalize) a)
        (Parents.unknown a.size, ds.zipIdx))
      (Parents.upTo a k, (ds.map fun d => shownUpTo visit a d k).zipIdx)
      ((List.range k).flatMap (a.eventsAt ds.length)) := by
  induction k with
  | zero =>
    rw [show (fun d => shownUpTo visit a d 0) = id from rfl, List.map_id]
    exact Does.pure _
  | succ k ih =>
    have hlook := does_look visit finalize h (ds.map fun d => shownUpTo visit a d k) k
    rw [List.length_map, List.map_map] at hlook
    rw [List.range_succ, List.foldlM_append, List.flatMap_append, List.flatMap_singleton]
    exact ih.bind (hlook.bind_pure id)

/-- A watched walk is not stopped, leaves its log, and ends like a walk that is not watched. -/
theorem does_walkWith (h : a.PreOrdered len) (ds : List δ) :
    Does (walkWith (Walker.watched visit finalize) a ds.zipIdx)
      (Parents.upTo a a.size, (ds.map fun d => finalize (shownUpTo visit a d a.size)).zipIdx)
      (a.walkLog ds.length) := by
  have hlooks := does_foldlM_look visit finalize h ds a.size
  have hends := does_mapM finalize .finalize (ds.map fun d => shownUpTo visit a d a.size) 0
  rw [List.length_map, List.map_map, ← List.range_eq_range'] at hends
  rw [walkWith_eq h]
  exact hlooks.bind (hends.bind_pure fun ds' => (Parents.upTo a a.size, ds'))

end Steps

/-! ### The order of the log -/

section Order

variable {a : Arena} {len : Nat → Nat}

/-- A parent may be recorded at `e` after `d` has happened: the child has not been visited, and has
no parent. -/
def Event.MayPrecede (d e : Event) : Prop :=
  ∀ c p, e = .assign c p → (∀ q, d ≠ .assign c q) ∧ ∀ i, d ≠ .visit i c

theorem eventsAt_pairwise (h : a.PreOrdered len) (n k : Nat) :
    (a.eventsAt n k).Pairwise Event.MayPrecede := by
  rw [Arena.eventsAt, List.pairwise_append, List.pairwise_map, List.pairwise_map]
  refine ⟨(h.children_pairwise_lt k).imp fun {c c'} hlt x p hx => ?_, ?_, ?_⟩
  · cases hx
    refine ⟨fun q hq => ?_, fun i hi => by cases hi⟩
    cases hq
    exact Nat.lt_irrefl _ hlt
  · exact List.pairwise_lt_range.imp fun _ c p hp => by cases hp
  · intro d _ e he c p hp
    obtain ⟨i, -, rfl⟩ := List.mem_map.1 he
    cases hp

/-- What happens at a node may precede what happens at a later one. -/
theorem mayPrecede_of_lt (h : a.PreOrdered len) {n j k : Nat} (hjk : j < k) {d e : Event}
    (hd : d ∈ a.eventsAt n j) (he : e ∈ a.eventsAt n k) : d.MayPrecede e := by
  rintro c p rfl
  have hc : c ∈ a.children k ∧ p = k := by simpa [Arena.eventsAt, eq_comm] using he
  rcases List.mem_append.1 hd with hd | hd
  · obtain ⟨c', hc', rfl⟩ := List.mem_map.1 hd
    refine ⟨fun q hq => ?_, fun i hi => by cases hi⟩
    cases hq
    -- the two nodes would both own `c`
    exact absurd (h.owner_unique hc' hc.1) (Nat.ne_of_lt hjk)
  · obtain ⟨i', -, rfl⟩ := List.mem_map.1 hd
    refine ⟨fun q hq => (by cases hq), fun i hi => ?_⟩
    cases hi
    have := (h.child_bounds hc.1).1
    omega

/-- On a walk no parent is recorded twice, and none for a node that has been visited. -/
theorem walkLog_pairwise (h : a.PreOrdered len) (n : Nat) :
    (a.walkLog n).Pairwise Event.MayPrecede := by
  rw [Arena.walkLog, List.pairwise_append, List.pairwise_flatMap, List.pairwise_map]
  refine ⟨⟨fun k _ => eventsAt_pairwise h n k, ?_⟩, ?_, ?_⟩
  · exact List.pairwise_lt_range.imp fun hjk d hd e he => mayPrecede_of_lt h hjk hd he
  · exact List.pairwise_lt_range.imp fun _ c p hp => by cases hp
  · intro d _ e he c p hp
    obtain ⟨i, -, rfl⟩ := List.mem_map.1 he
    cases hp

theorem mem_walkLog_assign {n c p : Nat} (hmem : .assign c p ∈ a.walkLog n) : c ∈ a.children p := by
  simp only [Arena.walkLog, Arena.eventsAt, List.mem_append, List.mem_flatMap, List.mem_map,
    List.mem_range] at hmem
  rcases hmem with ⟨k, -, ⟨c', hc', heq⟩ | ⟨i, -, heq⟩⟩ | ⟨i, -, heq⟩
  · cases heq
    exact hc'
  · cases heq
  · cases heq

/-- A parent is recorded for a node of the arena that has no parent yet and has not been visited. -/
theorem walkLog_before_assign (h : a.PreOrdered len) {n c p : Nat} {before after : List Event}
    (hlog : a.walkLog n = before ++ .assign c p :: after) :
    c < a.size ∧ (∀ q, .assign c q ∉ before) ∧ ∀ i, .visit i c ∉ before := by
  have hmem : .assign c p ∈ a.walkLog n := by
    rw [hlog]
    exact List.mem_append_right _ List.mem_cons_self
  have hpairs := walkLog_pairwise h n
  rw [hlog, List.pairwise_append] at hpairs
  have hbefore : ∀ d ∈ before, d.MayPrecede (.assign c p) :=
    fun d hd => hpairs.2.2 d hd _ List.mem_cons_self
  exact ⟨h.child_lt_size (mem_walkLog_assign hmem), fun q hq => (hbefore _ hq c p rfl).1 q rfl,
    fun i hi => (hbefore _ hi c p rfl).2 i rfl⟩

/-- To the detectors the nodes happen in the order of their numbers, each to one detector after the
other, and then the end. -/
theorem filter_walkLog (a : Arena) (n : Nat) :
    (a.walkLog n).filter Event.ofDetector =
      (List.range a.size).flatMap (fun id => (List.range n).map (.visit · id)) ++
        (List.range n).map .finalize := by
  have hnode : ∀ id, (a.eventsAt n id).filter Event.ofDetector =
      (List.range n).map (.visit · id) := by
    intro id
    simp [Arena.eventsAt, List.filter_map, Function.comp_def, Event.ofDetector]
  simp [Arena.walkLog, List.filter_flatMap, hnode, List.filter_map, Function.comp_def,
    Event.ofDetector]

end Order

theorem Syntax.Arena.preOrdered_empty : Arena.empty.PreOrdered fun _ => 0 where
  root := rfl
  children := fun _ hi => absurd hi (Nat.not_lt_zero _)

/-- **A walk shows the nodes in order, and records every parent once and before the child is
visited.** -/
theorem walk_events_of_tree {δ : Type} (visit : Context → Nat → δ → δ) (finalize : δ → δ)
    (t : ParseTree) (ds : List δ) :
    (∀ k,
      (Walk.run (Walker.plain visit finalize) (Arena.ofTree t) k
        (Walk.start (Arena.ofTree t) ds)).run.stack = [] ↔
      (Arena.ofTree t).size ≤ k) ∧
    (∃ parents final log,
      (walkWith (Walker.plain visit finalize) (Arena.ofTree t) ds).run = (parents, final) ∧
      (walkWith (Walker.watched visit finalize) (Arena.ofTree t) ds.zipIdx).run [] =
        .ok ((parents, final.zipIdx), log) ∧
      log.filter Event.ofDetector =
        (List.range (Arena.ofTree t).size).flatMap
          (fun id => (List.range ds.length).map (.visit · id)) ++
          (List.range ds.length).map .finalize ∧
      (∀ before after c p, log = before ++ .assign c p :: after →
        c < (Arena.ofTree t).size ∧ (∀ q, .assign c q ∉ before) ∧ ∀ i, .visit i c ∉ before) ∧
      (∀ c p, parents.get? c = some p ↔ c ∈ (Arena.ofTree t).children p) ∧
      parents.get? 0 = none) ∧
    (walkWith (Walker.watched visit finalize) Arena.empty ds.zipIdx).run [] =
      .ok ((Parents.unknown 0, (ds.map finalize).zipIdx),
        (List.range ds.length).map .finalize) := by
  have hpre := Arena.preOrdered_ofTree t
  have hparents : ∀ c p, (Parents.upTo (Arena.ofTree t) (Arena.ofTree t).size).get? c = some p ↔
      c ∈ (Arena.ofTree t).children p := by
    intro c p
    rw [Parents.get?_upTo hpre]
    exact ⟨fun hp => hp.2, fun hp => ⟨Arena.lt_size_of_mem_children hp, hp⟩⟩
  refine ⟨Walk.stack_run_start_eq_nil_iff hpre _ ds,
    ⟨_, _, _, congrArg Id.run (walkWith_plain visit finalize _ hpre ds),
    does_walkWith visit finalize hpre ds [], filter_walkLog _ _,
    fun before after c p hlog => walkLog_before_assign hpre hlog, hparents, ?_⟩,
    does_walkWith visit finalize Arena.preOrdered_empty ds []⟩
  rw [Option.eq_none_iff_forall_not_mem]
  intro p hp
  exact hpre.zero_not_mem_children p ((hparents 0 p).1 hp)

end PythonAudit
