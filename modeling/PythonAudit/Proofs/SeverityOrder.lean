import Mathlib.Tactic
import PythonAudit.Report.Scan

/-!
# The order of severities

Severities are compared by their ranks.

* `rank_max` and `atLeast_max` say that the worse one of two severities is bad enough for both;
* `worst?_eq_some_iff` says what the worst of some severities is, so it depends only on which
  severities there are (`worst?_congr`);
* `worst?_filter` says that dropping lesser severities keeps the worst one or leaves none, and
  `worst?_filterMap` that the worst ones of several lists are enough to find the worst one of all.
-/

namespace PythonAudit

namespace Severity

theorem atLeast_iff {s min : Severity} : s.atLeast min = true ↔ min.rank ≤ s.rank :=
  decide_eq_true_iff

theorem rank_max (s t : Severity) : (s.max t).rank = Max.max s.rank t.rank := by
  unfold Severity.max
  split_ifs <;> omega

theorem rank_injective : Function.Injective rank := by
  intro s t h
  cases s <;> cases t <;> simp_all [rank]

theorem atLeast_max (s a b : Severity) : s.atLeast (a.max b) = (s.atLeast a && s.atLeast b) := by
  rw [Bool.eq_iff_iff, Bool.and_eq_true, atLeast_iff, atLeast_iff, atLeast_iff, rank_max,
    max_le_iff]

@[simp] theorem atLeast_low (s : Severity) : s.atLeast low = true := atLeast_iff.2 (Nat.zero_le _)

@[simp] theorem max_self (s : Severity) : s.max s = s := by
  unfold Severity.max
  split_ifs <;> rfl

theorem max_comm (s t : Severity) : s.max t = t.max s := by
  refine rank_injective ?_
  rw [rank_max, rank_max, Nat.max_comm]

theorem weight_le_weight_iff {s t : Severity} : s.weight ≤ t.weight ↔ s.rank ≤ t.rank := by
  cases s <;> cases t <;> decide

/-! ### The worst severity -/

theorem worst?_eq_none_iff {ss : List Severity} : worst? ss = none ↔ ss = [] := by
  cases ss with
  | nil => simp [worst?]
  | cons s ss =>
    rw [worst?]
    cases worst? ss <;> simp

theorem mem_and_le_of_worst? {ss : List Severity} {m : Severity} (h : worst? ss = some m) :
    m ∈ ss ∧ ∀ s ∈ ss, s.rank ≤ m.rank := by
  induction ss generalizing m with
  | nil => cases h
  | cons s ss ih =>
    rw [worst?] at h
    cases hrest : worst? ss with
    | none =>
      rw [hrest] at h
      obtain rfl := Option.some.inj h
      obtain rfl := worst?_eq_none_iff.1 hrest
      simp
    | some t =>
      rw [hrest] at h
      obtain rfl := Option.some.inj h
      obtain ⟨hmem, hle⟩ := ih hrest
      constructor
      · -- whichever of the two is kept, it is in the list
        unfold Severity.max
        split_ifs
        · exact List.mem_cons_of_mem _ hmem
        · exact List.mem_cons_self
      · intro u hu
        rw [rank_max]
        rcases List.mem_cons.1 hu with rfl | hu
        · exact le_max_left _ _
        · exact (hle u hu).trans (le_max_right _ _)

/-- The worst severity is the one that no other one exceeds. -/
theorem worst?_eq_some_iff {ss : List Severity} {m : Severity} :
    worst? ss = some m ↔ m ∈ ss ∧ ∀ s ∈ ss, s.rank ≤ m.rank := by
  refine ⟨mem_and_le_of_worst?, fun ⟨hmem, hle⟩ => ?_⟩
  cases h : worst? ss with
  | none =>
    rw [worst?_eq_none_iff.1 h] at hmem
    cases hmem
  | some t =>
    obtain ⟨hmem', hle'⟩ := mem_and_le_of_worst? h
    rw [rank_injective (le_antisymm (hle t hmem') (hle' m hmem))]

theorem worst?_congr {ss ts : List Severity} (h : ∀ s, s ∈ ss ↔ s ∈ ts) :
    worst? ss = worst? ts := by
  ext m
  simp only [worst?_eq_some_iff, h]

/-- Without the severities below one, the worst one is as before, unless it was below that one
itself. -/
theorem worst?_filter (ss : List Severity) (a : Severity) :
    worst? (ss.filter fun s => s.atLeast a) = (worst? ss).filter fun s => s.atLeast a := by
  cases h : worst? ss with
  | none =>
    rw [worst?_eq_none_iff.1 h]
    rfl
  | some m =>
    obtain ⟨hmem, hle⟩ := worst?_eq_some_iff.1 h
    by_cases hm : m.atLeast a = true
    · rw [Option.filter_some, if_pos hm, worst?_eq_some_iff]
      exact ⟨List.mem_filter.2 ⟨hmem, hm⟩, fun s hs => hle s (List.mem_of_mem_filter hs)⟩
    · rw [Option.filter_some, if_neg hm, worst?_eq_none_iff, List.filter_eq_nil_iff]
      intro s hs hatLeast
      rw [atLeast_iff] at hm hatLeast
      exact hm (hatLeast.trans (hle s hs))

/-- The worst severity of several lists is the worst one of their worst ones. -/
theorem worst?_filterMap (lists : List (List Severity)) :
    worst? (lists.filterMap worst?) = worst? lists.flatten := by
  ext m
  simp only [worst?_eq_some_iff, List.mem_filterMap, List.mem_flatten]
  constructor
  · rintro ⟨⟨ss, hss, hmem, -⟩, hall⟩
    refine ⟨⟨ss, hss, hmem⟩, ?_⟩
    rintro s ⟨ts, hts, hs⟩
    -- a list with a severity in it has a worst one, which stands for the list
    cases h : worst? ts with
    | none =>
      rw [worst?_eq_none_iff.1 h] at hs
      cases hs
    | some t =>
      have ht := worst?_eq_some_iff.1 h
      exact (ht.2 s hs).trans (hall t ⟨ts, hts, ht⟩)
  · rintro ⟨⟨ss, hss, hmem⟩, hall⟩
    refine ⟨⟨ss, hss, hmem, fun s hs => hall s ⟨ss, hss, hs⟩⟩, ?_⟩
    rintro t ⟨ts, hts, ht, -⟩
    exact hall t ⟨ts, hts, ht⟩

/-- The worst of some severities is bad enough when one of them is. -/
theorem any_worst?_iff (ss : List Severity) (min : Severity) :
    ((worst? ss).any fun m => m.atLeast min) = true ↔ ∃ s ∈ ss, min.rank ≤ s.rank := by
  induction ss with
  | nil => simp [worst?]
  | cons s ss ih =>
    rw [List.exists_mem_cons_iff, ← ih, worst?]
    cases worst? ss with
    | none => simp [atLeast_iff]
    | some t =>
      simp only [Option.any_some, atLeast_iff, rank_max]
      omega

end Severity

end PythonAudit
