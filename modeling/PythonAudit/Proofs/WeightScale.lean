import PythonAudit.Proofs.RiskScore
import PythonAudit.Proofs.SeverityOrder

/-!
# Risk and weight

How the score follows from the severities of the findings.

* `Report.weight` adds up the weights severity by severity, and `exactWeight_findings` says that
  this is the weight of all findings;
* `Fits.exactScore_eq_min` is the exact score as a function of the weight, from which its order
  follows (`exactScore_le_exactScore`);
* the weight depends on the severities alone, however they are ordered
  (`exactWeight_of_perm_severities`), and it grows with more findings (`exactWeight_le_of_subperm`)
  and with worse ones (`exactWeight_le_of_raised`);
* `Double.units_fifths_le` and `RiskLevel.ofScore_fifths` carry order and levels over to
  floating-point scores.
-/

namespace PythonAudit

/-! ### Scores as floating-point numbers -/

/-- Up to ten, more fifths are not less. -/
theorem Double.units_fifths_le {k l : Nat} (hkl : k ≤ l) (hl : l ≤ 50) :
    (fifths k).units ≤ (fifths l).units := by
  have hstep : ∀ k < 50, (fifths k).units ≤ (fifths (k + 1)).units := by decide +kernel
  induction l, hkl using Nat.le_induction with
  | base => exact le_rfl
  | succ l hkl ih => exact (ih (by omega)).trans (hstep l (by omega))

/-- The levels in fifths: medium from one fifth on, high from five on. -/
theorem RiskLevel.ofScore_fifths :
    ∀ k ≤ 50, (ofScore (Double.fifths k) = low ↔ k = 0) ∧
      (ofScore (Double.fifths k) = high ↔ 25 ≤ k) := by
  decide +kernel

namespace Finding

/-! ### Weights -/

/-- The weight depends only on which severities there are, and how often. -/
theorem exactWeight_of_perm_severities {fs gs : List Finding}
    (h : (fs.map fun f => f.severity).Perm (gs.map fun f => f.severity)) :
    exactWeight fs = exactWeight gs := by
  have hweights := (h.map Severity.weight).sum_eq
  rwa [List.map_map, List.map_map] at hweights

theorem exactWeight_le_of_subperm {fs gs : List Finding} (h : fs.Subperm gs) :
    exactWeight fs ≤ exactWeight gs := by
  obtain ⟨hs, hperm, hsub⟩ := h
  rw [← exactWeight_perm hperm]
  exact (hsub.map _).sum_le_sum fun _ _ => Nat.zero_le _

theorem exactWeight_le_of_raised {fs gs : List Finding}
    (h : List.Forall₂ (fun f g => f.severity.rank ≤ g.severity.rank) fs gs) :
    exactWeight fs ≤ exactWeight gs := by
  induction h with
  | nil => exact le_rfl
  | cons hfg _ ih => exact Nat.add_le_add (Severity.weight_le_weight_iff.2 hfg) ih

/-! ### The exact score -/

theorem exactScore_eq_min (fs : List Finding) :
    exactScore fs = min 10 (((exactWeight fs % 2 ^ 32 : ℕ) : ℚ) / 5) := by
  rw [exactScore_eq, toNat_totalWeight, Nat.cast_min, ← min_div_div_right (by norm_num), min_comm]
  norm_num

theorem Fits.exactScore_eq_min {fs : List Finding} (h : Fits fs) :
    exactScore fs = min 10 ((exactWeight fs : ℚ) / 5) := by
  rw [Finding.exactScore_eq_min, Nat.mod_eq_of_lt h]

theorem Fits.of_le {fs gs : List Finding} (hgs : Fits gs) (h : exactWeight fs ≤ exactWeight gs) :
    Fits fs :=
  h.trans_lt hgs

theorem exactScore_le_exactScore {fs gs : List Finding} (hgs : Fits gs)
    (h : exactWeight fs ≤ exactWeight gs) : exactScore fs ≤ exactScore gs := by
  rw [(hgs.of_le h).exactScore_eq_min, hgs.exactScore_eq_min]
  gcongr

theorem Fits.exactScore_eq_zero_iff {fs : List Finding} (h : Fits fs) :
    exactScore fs = 0 ↔ fs = [] := by
  rw [exactScore_eq, div_eq_zero_iff, or_iff_left (by norm_num), Nat.cast_eq_zero,
    ← h.toNat_totalWeight_eq_zero_iff]
  omega

theorem Fits.exactScore_eq_ten_iff {fs : List Finding} (h : Fits fs) :
    exactScore fs = 10 ↔ 50 ≤ exactWeight fs := by
  have hten : (10 : ℚ) ≤ exactWeight fs / 5 ↔ 50 ≤ exactWeight fs := by
    rw [le_div_iff₀ (by norm_num), ← Nat.cast_le (α := ℚ)]
    norm_num
  rw [h.exactScore_eq_min, min_eq_left_iff, hten]

theorem value_riskScore_le_value {fs gs : List Finding} (hgs : Fits gs)
    (h : exactWeight fs ≤ exactWeight gs) : (riskScore fs).value ≤ (riskScore gs).value := by
  have hunits : (riskScore fs).units ≤ (riskScore gs).units := by
    rw [riskScore_eq, riskScore_eq, (hgs.of_le h).toNat_totalWeight, hgs.toNat_totalWeight]
    exact Double.units_fifths_le (by omega) (min_le_right _ _)
  rw [value_riskScore, value_riskScore]
  exact div_le_div_of_nonneg_right (Nat.cast_le.2 hunits) Double.one_pos.le

end Finding

namespace Report

/-! ### Counts -/

/-- The weights of all findings, severity by severity. -/
def weight (r : Report) : Nat := (r.severityCounts.map fun p => p.2 * p.1.weight).sum

/-- Every finding counts for its severity. -/
theorem exactWeight_eq_sum_counts (fs : List Finding) :
    Finding.exactWeight fs =
      (Severity.all.map fun s => (fs.filter fun f => f.severity == s).length * s.weight).sum := by
  induction fs with
  | nil => rfl
  | cons f fs ih =>
    rw [Finding.exactWeight_cons, ih]
    cases hf : f.severity <;> simp [Severity.all, hf, Severity.weight] <;> omega

theorem exactWeight_findings (r : Report) : Finding.exactWeight r.findings = r.weight := by
  -- a severity that does not occur is not among the counts, and it has no weight
  have hdrop : ∀ counts : List (Severity × Nat),
      ((counts.filter fun p => 0 < p.2).map fun p => p.2 * p.1.weight).sum =
        (counts.map fun p => p.2 * p.1.weight).sum := by
    intro counts
    induction counts with
    | nil => rfl
    | cons p counts ih =>
      by_cases hp : 0 < p.2
      · simp [hp, ih]
      · simp [ih, Nat.eq_zero_of_not_pos hp]
  rw [exactWeight_eq_sum_counts, weight, severityCounts, hdrop, List.map_map]
  rfl

end Report

/-- **The score is a fifth of the weight, at most ten**, when the weight fits into a word: it
depends on the severities alone, grows with them, and is zero only without findings. -/
theorem score_of_weight (r : Report) :
    (Finding.Fits r.findings → Finding.exactScore r.findings = min 10 ((r.weight : ℚ) / 5)) ∧
    (∀ fs : List Finding, (fs.map fun f => f.severity).Perm (r.findings.map fun f => f.severity) →
      Finding.exactScore fs = Finding.exactScore r.findings) ∧
    (∀ fs : List Finding, fs.Perm r.findings →
      Finding.exactScore fs = Finding.exactScore r.findings) ∧
    (∀ fs : List Finding, Finding.Fits fs → r.findings.Subperm fs →
      Finding.exactScore r.findings ≤ Finding.exactScore fs) ∧
    (∀ fs : List Finding, Finding.Fits fs →
      List.Forall₂ (fun f g => f.severity.rank ≤ g.severity.rank) r.findings fs →
      Finding.exactScore r.findings ≤ Finding.exactScore fs) ∧
    (0 ≤ Finding.exactScore r.findings ∧ Finding.exactScore r.findings ≤ 10) ∧
    (Finding.Fits r.findings →
      (Finding.exactScore r.findings = 0 ↔ r.findings = []) ∧
      (Finding.exactScore r.findings = 10 ↔ 50 ≤ r.weight) ∧
      (RiskLevel.ofScore (Finding.riskScore r.findings) = .low ↔ r.findings = []) ∧
      (RiskLevel.ofScore (Finding.riskScore r.findings) = .high ↔ 25 ≤ r.weight)) := by
  have hweight := r.exactWeight_findings
  have hseverities : ∀ fs : List Finding,
      (fs.map fun f => f.severity).Perm (r.findings.map fun f => f.severity) →
      Finding.exactScore fs = Finding.exactScore r.findings := by
    intro fs h
    rw [Finding.exactScore_eq_min, Finding.exactScore_eq_min,
      Finding.exactWeight_of_perm_severities h]
  refine ⟨fun hfits => by rw [hfits.exactScore_eq_min, hweight], hseverities,
    fun fs h => hseverities fs (h.map _),
    fun fs hfits h => Finding.exactScore_le_exactScore hfits (Finding.exactWeight_le_of_subperm h),
    fun fs hfits h => Finding.exactScore_le_exactScore hfits (Finding.exactWeight_le_of_raised h),
    ⟨?_, ?_⟩, fun hfits => ?_⟩
  · rw [Finding.exactScore_eq_min]
    positivity
  · rw [Finding.exactScore_eq_min]
    exact min_le_left _ _
  · obtain ⟨hlow, hhigh⟩ :=
      RiskLevel.ofScore_fifths _ (min_le_right (Finding.totalWeight r.findings).toNat 50)
    rw [← Finding.riskScore_eq, hfits.toNat_totalWeight] at hlow hhigh
    refine ⟨hfits.exactScore_eq_zero_iff, by rw [hfits.exactScore_eq_ten_iff, hweight], ?_, ?_⟩
    · rw [hlow, ← Finding.exactWeight_eq_zero_iff]
      omega
    · rw [hhigh, ← hweight]
      omega

/-- Findings of some severities, all in one place. -/
def findingsOf (severities : List Severity) : List Finding :=
  severities.map fun s => ⟨"TokenAnalyzer", s, "", 1, 0, "exec"⟩

/-- A report whose score has not been found yet. -/
def unscored (severities : List Severity) : Report :=
  { filename := "a.py", findings := findingsOf severities, riskScore :=
    Double.zero, status := .success }

/-- The score of three findings: their order does not matter, and one more finding or a worse one
adds to it. -/
theorem score_of_unscored :
    Finding.exactScore (findingsOf [.high, .low, .medium]) = 11 / 5 ∧
      Finding.exactScore (findingsOf [.medium, .low, .high]) = 11 / 5 ∧
      11 / 5 ≤ Finding.exactScore (findingsOf [.critical, .high, .low, .medium]) ∧
      11 / 5 ≤ Finding.exactScore (findingsOf [.high, .critical, .medium]) := by
  obtain ⟨hscore, hseverities, -, hmore, hraised, -⟩ :=
    score_of_weight (unscored [.high, .low, .medium])
  have heq : Finding.exactScore (findingsOf [.high, .low, .medium]) = 11 / 5 := by
    refine (hscore (show 11 < 2 ^ 32 by decide)).trans ?_
    rw [show (unscored [.high, .low, .medium]).weight = 11 by decide]
    norm_num
  refine ⟨heq, (hseverities _ (by decide)).trans heq,
    heq.symm.le.trans (hmore _ (show 21 < 2 ^ 32 by decide) ?_),
    heq.symm.le.trans (hraised _ (show 20 < 2 ^ 32 by decide) ?_)⟩
  · exact (List.sublist_cons_self _ _).subperm
  · simp [unscored, findingsOf, Severity.rank]

end PythonAudit
