import PythonAudit.Proofs.Kept
import PythonAudit.Proofs.Walk

/-!
# Ancestors during a walk

A detector asks for the ancestors of a node while the parents of later nodes are still unknown. It
gets the answers that it would get after the walk.

* `Arena.OwnerPath a c ps` says that `ps` are the owners from node `c` up to the root;
* `Context.Climbs` goes from parent to parent without any bound, and `Context.Seeks` does so until
  it comes to a node that does not only group an expression; whoever gets to the end of one of them
  has been on a finite way;
* `climbs_ancestorsUpTo` says that the bound of `ancestorsUpTo` cuts nothing off, and `Climbs.seeks`
  that the search for a semantic parent ends with the climb;
* `Climbs.ownerPath`, `OwnerPath.pairwise_gt` and `OwnerPath.getLast?_eq` find the way to the root
  in the climb;
* `Context.AncestryKnown` collects what a context knows of the ancestry of a node;
* `Arena.views` lists what the detectors of a walk see, and `ancestry_during_walk` says that they
  always know the ancestry of the node that they are shown.
-/

namespace PythonAudit

open Syntax

namespace Syntax

/-! ### Ways to the root -/

/-- The owners of a node, the nearest first, up to the root. -/
inductive Arena.OwnerPath (a : Arena) : Nat → List Nat → Prop
  | root : OwnerPath a 0 []
  | step {c p : Nat} {ps : List Nat} : c ∈ a.children p → OwnerPath a p ps → OwnerPath a c (p :: ps)

namespace Arena.OwnerPath

variable {a : Arena} {len : Nat → Nat} {c : Nat} {ps qs : List Nat}

theorem unique (h : a.PreOrdered len) (hps : a.OwnerPath c ps) (hqs : a.OwnerPath c qs) :
    ps = qs := by
  induction hps generalizing qs with
  | root =>
    cases hqs with
    | root => rfl
    | step hc _ => exact absurd hc (h.zero_not_mem_children _)
  | step hc _ ih =>
    cases hqs with
    | root => exact absurd hc (h.zero_not_mem_children _)
    | step hc' hrest =>
      obtain rfl := h.owner_unique hc hc'
      rw [ih hrest]

/-- Owners have smaller numbers, so the way to the root goes down. -/
theorem pairwise_gt (h : a.PreOrdered len) (hps : a.OwnerPath c ps) :
    (c :: ps).Pairwise (· > ·) := by
  induction hps with
  | root => simp
  | @step c p ps hc _ ih =>
    have hlt : p < c := (h.child_bounds hc).1
    refine List.pairwise_cons.2 ⟨fun q hq => ?_, ih⟩
    rcases List.mem_cons.1 hq with rfl | hq
    · exact hlt
    · have hqp : q < p := List.rel_of_pairwise_cons ih hq
      omega

theorem getLast?_eq (hps : a.OwnerPath c ps) : (c :: ps).getLast? = some 0 := by
  induction hps with
  | root => rfl
  | step _ _ ih => rw [List.getLast?_cons_cons, ih]

end Arena.OwnerPath

/-! ### Climbing -/

namespace Context

/-- Going from parent to parent, one comes to the listed nodes and then to an end. -/
inductive Climbs (x : Context) : Nat → List Nat → Prop
  | stop {c : Nat} : x.parent? c = none → Climbs x c []
  | step {c p : Nat} {ps : List Nat} : x.parent? c = some p → Climbs x p ps → Climbs x c (p :: ps)

/-- Going from parent to parent as long as they only group an expression, one comes to a node that
does not, or to none. -/
inductive Seeks (x : Context) : Nat → Option Nat → Prop
  | lost {c : Nat} : x.parent? c = none → Seeks x c none
  | found {c e : Nat} : x.parent? c = some e → ¬ x.arena.Groups e → Seeks x c (some e)
  | through {c g : Nat} {r : Option Nat} : x.parent? c = some g → x.arena.Groups g →
      Seeks x g r → Seeks x c r

variable {x y : Context} {len : Nat → Nat} {id c : Nat} {ps qs : List Nat}

theorem Climbs.unique (hps : x.Climbs c ps) (hqs : x.Climbs c qs) : ps = qs := by
  induction hps generalizing qs with
  | stop hnone =>
    cases hqs with
    | stop => rfl
    | step hsome _ =>
      rw [hnone] at hsome
      cases hsome
  | step hsome _ ih =>
    cases hqs with
    | stop hnone =>
      rw [hnone] at hsome
      cases hsome
    | step hsome' hrest =>
      rw [hsome] at hsome'
      cases hsome'
      rw [ih hrest]

theorem Climbs.parent?_eq_head? (h : x.Climbs c ps) : x.parent? c = ps.head? := by
  cases h with
  | stop hnone => exact hnone
  | step hsome _ => exact hsome

theorem Seeks.unique {r s : Option Nat} (hr : x.Seeks c r) (hs : x.Seeks c s) : r = s := by
  induction hr with
  | lost hnone => cases hs <;> simp_all
  | found hsome hnot => cases hs <;> simp_all
  | through hsome hgroups _ ih =>
    cases hs with
    | lost hnone => simp_all
    | found hsome' hnot => simp_all
    | through hsome' _ hrest =>
      rw [hsome] at hsome'
      cases hsome'
      exact ih hrest

/-- The search ends where the climb does, with the first node that does not only group an
expression. -/
theorem Climbs.seeks (h : x.Climbs c ps) :
    x.Seeks c (ps.find? fun p => !((x.arena.kind? p).any isGrouping)) := by
  induction h with
  | stop hnone => exact Seeks.lost hnone
  | @step c p ps hsome _ ih =>
    by_cases hg : x.arena.Groups p
    · rw [List.find?_cons_of_neg (by simp [(any_isGrouping_iff x.arena p).2 hg])]
      exact Seeks.through hsome hg ih
    · rw [List.find?_cons_of_pos (by simpa [← any_isGrouping_iff] using hg)]
      exact Seeks.found hsome hg

/-- As many steps as the number of a node says are enough for the whole climb. -/
theorem climbs_ancestorsUpTo (h : x.arena.PreOrdered len) (hx : x.Knows id) (limit : Nat)
    (hlimit : c ≤ limit) (hc : c ≤ id) : x.Climbs c (x.ancestorsUpTo limit c) := by
  induction limit generalizing c with
  | zero =>
    obtain rfl : c = 0 := by omega
    refine Climbs.stop (Option.eq_none_iff_forall_not_mem.2 fun p hp => ?_)
    exact h.zero_not_mem_children p ((hx 0 hc p).1 hp)
  | succ limit ih =>
    rw [ancestorsUpTo]
    cases hp : x.parent? c with
    | none => exact Climbs.stop hp
    | some p =>
      have hlt : p < c := (h.child_bounds ((hx c hc p).1 hp)).1
      exact Climbs.step hp (ih (by omega) (by omega))

/-- A climb over known parents leads from owner to owner up to the root. -/
theorem Climbs.ownerPath (h : x.arena.PreOrdered len) (hx : x.Knows id) (hps : x.Climbs c ps)
    (hc : c ≤ id) (hsize : c < x.arena.size) : x.arena.OwnerPath c ps := by
  induction hps with
  | @stop c hnone =>
    -- only the root has no owner
    obtain rfl : c = 0 := by
      by_contra hne
      obtain ⟨p, hp⟩ := h.exists_owner (Nat.pos_of_ne_zero hne) hsize
      rw [(hx c hc p).2 hp] at hnone
      cases hnone
    exact Arena.OwnerPath.root
  | @step c p ps hsome _ ih =>
    have howner := (hx c hc p).1 hsome
    have hlt : p < c := (h.child_bounds howner).1
    exact Arena.OwnerPath.step howner (ih (by omega) (by omega))

/-! ### What a context knows -/

/-- The context knows the whole ancestry of a node: climbing from it ends, at the root and after the
owners of the node, and so does the search for its semantic parent, at the first owner that does not
only group an expression. -/
structure AncestryKnown (x : Context) (id : Nat) : Prop where
  climbs : ∀ ps, x.Climbs id ps ↔ ps = x.ancestors id
  owners : ∀ ps, x.arena.OwnerPath id ps ↔ ps = x.ancestors id
  descending : (id :: x.ancestors id).Pairwise (· > ·)
  ends_at_root : (id :: x.ancestors id).getLast? = some 0
  seeks : ∀ r, x.Seeks id r ↔ r = x.semanticParent? id
  first : ∀ e, x.semanticParent? id = some e ↔
    ∃ before after, x.ancestors id = before ++ e :: after ∧
    ¬ x.arena.Groups e ∧ ∀ g ∈ before, x.arena.Groups g
  none_left : x.semanticParent? id = none ↔ ∀ g ∈ x.ancestors id, x.arena.Groups g

theorem semanticParent?_eq_some_iff_append (x : Context) (id e : Nat) :
    x.semanticParent? id = some e ↔ ∃ before after, x.ancestors id = before ++ e :: after ∧
      ¬ x.arena.Groups e ∧ ∀ g ∈ before, x.arena.Groups g := by
  rw [semanticParent?, List.find?_eq_some_iff_append]
  simp only [Bool.not_eq_true', Bool.not_not, any_isGrouping_iff, Bool.eq_false_iff, ne_eq]
  constructor
  · rintro ⟨hnot, before, after, heq, hall⟩
    exact ⟨before, after, heq, hnot, hall⟩
  · rintro ⟨before, after, heq, hnot, hall⟩
    exact ⟨hnot, before, after, heq, hall⟩

theorem semanticParent?_eq_none_iff (x : Context) (id : Nat) :
    x.semanticParent? id = none ↔ ∀ g ∈ x.ancestors id, x.arena.Groups g := by
  simp [semanticParent?, ← any_isGrouping_iff]

theorem Knows.ancestryKnown (h : x.arena.PreOrdered len) (hx : x.Knows id)
    (hid : id < x.arena.size) :
    x.AncestryKnown id := by
  have hclimbs : x.Climbs id (x.ancestors id) := climbs_ancestorsUpTo h hx id le_rfl le_rfl
  have howners := hclimbs.ownerPath h hx le_rfl hid
  have hseeks : x.Seeks id (x.semanticParent? id) := hclimbs.seeks
  exact
    { climbs := fun ps => ⟨fun hps => hps.unique hclimbs, fun hps => hps ▸ hclimbs⟩
      owners := fun ps => ⟨fun hps => hps.unique h howners, fun hps => hps ▸ howners⟩
      descending := howners.pairwise_gt h
      ends_at_root := howners.getLast?_eq
      seeks := fun r => ⟨fun hr => hr.unique hseeks, fun hr => hr ▸ hseeks⟩
      first := semanticParent?_eq_some_iff_append x id
      none_left := semanticParent?_eq_none_iff x id }

/-- Two contexts of one arena that know the ancestry of a node agree about it. -/
theorem AncestryKnown.ancestors_eq (hx : x.AncestryKnown id) (hy : y.AncestryKnown id)
    (harena : x.arena = y.arena) :
    x.ancestors id = y.ancestors id := by
  have howners := (hx.owners _).2 rfl
  rw [harena] at howners
  exact (hy.owners _).1 howners

theorem AncestryKnown.semanticParent?_eq (hx : x.AncestryKnown id) (hy : y.AncestryKnown id)
    (harena : x.arena = y.arena) : x.semanticParent? id = y.semanticParent? id := by
  rw [semanticParent?, semanticParent?, hx.ancestors_eq hy harena, harena]

theorem AncestryKnown.parent?_eq (hx : x.AncestryKnown id) (hy : y.AncestryKnown id)
    (harena : x.arena = y.arena) :
    x.parent? id = y.parent? id := by
  rw [((hx.climbs _).2 rfl).parent?_eq_head?, ((hy.climbs _).2 rfl).parent?_eq_head?,
    hx.ancestors_eq hy harena]

end Context

end Syntax

/-! ### What detectors see -/

/-- The nodes that a walk shows, in order, each with what a detector sees at it. -/
def Syntax.Arena.views (a : Arena) (k : Nat) : List (Context × Nat) :=
  (List.range k).map fun id => (Context.during a id, id)

theorem shownUpTo_eq_foldl {δ : Type} (visit : Context → Nat → δ → δ) (a : Arena) (d : δ)
    (k : Nat) :
    shownUpTo visit a d k = (a.views k).foldl (fun d s => visit s.1 s.2 d) d := by
  induction k with
  | zero => rfl
  | succ k ih =>
    rw [shownUpTo, ih, Arena.views, Arena.views, List.range_succ, List.map_append,
      List.foldl_append]
    rfl

/-- **During a walk a detector knows the whole ancestry of the node it is shown**, as it is known
after the walk, and it is shown every node once, in order. -/
theorem ancestry_during_walk (t : ParseTree) :
    ∃ (parents : Parents) (views : List (Context × Nat)),
      (∀ (δ : Type) (visit : Context → Nat → δ → δ) (finalize : δ → δ) (ds : List δ),
        (walkWith (Walker.plain visit finalize) (Arena.ofTree t) ds).run =
          (parents, ds.map fun d => finalize (views.foldl (fun d s => visit s.1 s.2 d) d))) ∧
      views.map Prod.snd = List.range (Arena.ofTree t).size ∧
      ∀ s ∈ views, s.1.arena = Arena.ofTree t ∧ s.1.AncestryKnown s.2 ∧
        Context.AncestryKnown ⟨Arena.ofTree t, parents⟩ s.2 ∧
        s.1.parent? s.2 = Context.parent? ⟨Arena.ofTree t, parents⟩ s.2 ∧
        s.1.semanticParent? s.2 = Context.semanticParent? ⟨Arena.ofTree t, parents⟩ s.2 ∧
        s.1.ancestors s.2 = Context.ancestors ⟨Arena.ofTree t, parents⟩ s.2 := by
  have hpre := Arena.preOrdered_ofTree t
  refine ⟨Parents.upTo (Arena.ofTree t) (Arena.ofTree t).size,
    (Arena.ofTree t).views (Arena.ofTree t).size, ?_, ?_, ?_⟩
  · intro δ visit finalize ds
    rw [walkWith_plain visit finalize _ hpre]
    simp only [shownUpTo_eq_foldl]
    rfl
  · simp [Arena.views, Function.comp_def]
  · intro s hs
    obtain ⟨id, hid, rfl⟩ := List.mem_map.1 hs
    have hduring := (Context.knows_during hpre id).ancestryKnown hpre (List.mem_range.1 hid)
    have hafter := (Context.knows_complete hpre id).ancestryKnown hpre (List.mem_range.1 hid)
    exact ⟨rfl, hduring, hafter, hduring.parent?_eq hafter rfl,
      hduring.semanticParent?_eq hafter rfl,
      hduring.ancestors_eq hafter rfl⟩

end PythonAudit
