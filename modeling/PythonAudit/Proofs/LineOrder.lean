import Mathlib.Tactic
import PythonAudit.Detector.Basic
import PythonAudit.Report.Basic

/-!
# Findings in the order of their lines

* `Finding.LineSorted fs gs` says that `gs` are the findings `fs` in the order of the lines, where
  the findings of one line keep their order;
* `lineSorted_iff` says that there is exactly one such list, the one that sorting gives;
* `sorted_sorted` says that sorting a second time changes nothing, so a report does not reorder what
  the detectors have found (`findings_success_aggregate`).
-/

namespace PythonAudit

namespace Finding

/-- The findings `gs` are the findings `fs`, with ascending lines, and with the findings of each
line in the order they had. -/
structure LineSorted (fs gs : List Finding) : Prop where
  perm : gs.Perm fs
  ascending : gs.Pairwise fun f g => f.line ≤ g.line
  stable : ∀ line, gs.filter (fun f => f.line = line) = fs.filter fun f => f.line = line

/-! ### What sorting gives -/

theorem decide_line_trans (f g h : Finding) (hfg : decide (f.line ≤ g.line) = true)
    (hgh : decide (g.line ≤ h.line) = true) : decide (f.line ≤ h.line) = true :=
  decide_eq_true ((of_decide_eq_true hfg).trans (of_decide_eq_true hgh))

theorem decide_line_total (f g : Finding) :
    (decide (f.line ≤ g.line) || decide (g.line ≤ f.line)) = true := by
  rw [Bool.or_eq_true, decide_eq_true_eq, decide_eq_true_eq]
  exact Nat.le_total _ _

theorem perm_sorted (fs : List Finding) : (sorted fs).Perm fs := List.mergeSort_perm ..

theorem pairwise_sorted (fs : List Finding) : (sorted fs).Pairwise fun f g => f.line ≤ g.line :=
  (List.pairwise_mergeSort decide_line_trans decide_line_total fs).imp of_decide_eq_true

/-- Findings that are in order stay as they are. -/
theorem sorted_of_pairwise {fs : List Finding} (h : fs.Pairwise fun f g => f.line ≤ g.line) :
    sorted fs = fs :=
  List.mergeSort_of_pairwise (h.imp decide_eq_true)

@[simp] theorem sorted_sorted (fs : List Finding) : sorted (sorted fs) = sorted fs :=
  sorted_of_pairwise (pairwise_sorted fs)

/-- The findings of one line keep their order. -/
theorem filter_line_sorted (fs : List Finding) (line : Nat) :
    (sorted fs).filter (fun f => f.line = line) = fs.filter fun f => f.line = line := by
  -- the findings of the line are in order already, so they are a sublist of the sorted findings
  have hpairs : (fs.filter fun f => f.line = line).Pairwise fun f g =>
      decide (f.line ≤ g.line) = true := by
    refine List.pairwise_of_forall_mem_list fun f hf g hg => ?_
    have hf : f.line = line := by simpa using List.of_mem_filter hf
    have hg : g.line = line := by simpa using List.of_mem_filter hg
    exact decide_eq_true (by omega)
  have hsub : (fs.filter fun f => f.line = line).Sublist (sorted fs) :=
    List.sublist_mergeSort decide_line_trans decide_line_total hpairs List.filter_sublist
  have hin : (fs.filter fun f => f.line = line).Sublist
      ((sorted fs).filter fun f => f.line = line) := by
    have h := hsub.filter fun f => f.line = line
    simpa only [List.filter_filter, Bool.and_self] using h
  -- and they are as many as the sorted findings of the line
  exact (hin.eq_of_length ((perm_sorted fs).filter _).length_eq.symm).symm

theorem lineSorted_sorted (fs : List Finding) : LineSorted fs (sorted fs) where
  perm := perm_sorted fs
  ascending := pairwise_sorted fs
  stable := filter_line_sorted fs

/-! ### Nothing else is sorted -/

theorem mem_iff_of_filter_line_eq {gs hs : List Finding}
    (h : ∀ line, gs.filter (fun f => f.line = line) = hs.filter fun f => f.line = line)
    (f : Finding) :
    f ∈ gs ↔ f ∈ hs := by
  have hmem : f ∈ gs.filter (fun g => g.line = f.line) ↔
      f ∈ hs.filter (fun g => g.line = f.line) := by rw [h]
  simpa using hmem

/-- Two lists in order with the same findings on every line are the same. -/
theorem eq_of_filter_line_eq {gs hs : List Finding} (hg : gs.Pairwise fun f g => f.line ≤ g.line)
    (hh : hs.Pairwise fun f g => f.line ≤ g.line)
    (heq : ∀ line, gs.filter (fun f => f.line = line) = hs.filter fun f => f.line = line) :
    gs = hs := by
  induction gs generalizing hs with
  | nil =>
    symm
    rw [List.eq_nil_iff_forall_not_mem]
    intro f hf
    exact List.not_mem_nil ((mem_iff_of_filter_line_eq heq f).2 hf)
  | cons g gs ih =>
    have hmem := mem_iff_of_filter_line_eq heq
    cases hs with
    | nil => exact absurd ((hmem g).1 List.mem_cons_self) List.not_mem_nil
    | cons h hs =>
      obtain ⟨hgall, hgs⟩ := List.pairwise_cons.1 hg
      obtain ⟨hhall, hhs⟩ := List.pairwise_cons.1 hh
      -- the first findings are on the least line, so they are the first ones of that line
      have hle : g.line ≤ h.line := by
        rcases List.mem_cons.1 ((hmem h).2 List.mem_cons_self) with rfl | hin
        · exact le_rfl
        · exact hgall h hin
      have hge : h.line ≤ g.line := by
        rcases List.mem_cons.1 ((hmem g).1 List.mem_cons_self) with rfl | hin
        · exact le_rfl
        · exact hhall g hin
      have hline : h.line = g.line := le_antisymm hge hle
      have hfirst := heq g.line
      rw [List.filter_cons_of_pos (by simp), List.filter_cons_of_pos (by simp [hline]),
        List.cons.injEq] at hfirst
      obtain ⟨rfl, -⟩ := hfirst
      have hrest : ∀ line, gs.filter (fun f => f.line = line) = hs.filter fun f =>
          f.line = line := by
        intro line
        have hall := heq line
        by_cases hon : g.line = line
        · rw [List.filter_cons_of_pos (by simpa using hon),
            List.filter_cons_of_pos (by simpa using hon)] at hall
          exact (List.cons.inj hall).2
        · rw [List.filter_cons_of_neg (by simpa using hon),
            List.filter_cons_of_neg (by simpa using hon)] at hall
          exact hall
      rw [ih hgs hhs hrest]

/-- There is one way to put findings in the order of their lines, and it is to sort them. -/
theorem lineSorted_iff (fs gs : List Finding) : LineSorted fs gs ↔ gs = sorted fs := by
  constructor
  · intro h
    exact eq_of_filter_line_eq h.ascending (pairwise_sorted fs) fun line => by
      rw [h.stable, filter_line_sorted]
  · rintro rfl
    exact lineSorted_sorted fs

end Finding

@[simp] theorem Report.findings_build (filename : String) (fs : List Finding) (status : Status)
    (error : Option String) :
    (Report.build filename fs status error).findings = Finding.sorted fs := rfl

theorem Detector.lineSorted_aggregate (ds : List Detector) :
    Finding.LineSorted (ds.flatMap Detector.findings) (Detector.aggregate ds) :=
  Finding.lineSorted_sorted _

/-- A report does not reorder what the detectors have found. -/
theorem Report.findings_success_aggregate (filename : String) (ds : List Detector) :
    (Report.success filename (Detector.aggregate ds)).findings = Detector.aggregate ds := by
  rw [Report.success, Report.findings_build, Detector.aggregate, Finding.sorted_sorted]

end PythonAudit
