import PythonAudit.Proofs.DottedName
import PythonAudit.Proofs.Kept
import PythonAudit.Proofs.Walk

/-!
# Which calls are reported as dangerous

* `finding?_eq_some_iff` says for which nodes there is a finding, in terms of the grammar of dotted
  names;
* `names_and_dangerous_calls_of_tree` says of the arena of every tree that names are found without a
  fault and that a walk reports its dangerous calls in pre-order, once each.
-/

namespace PythonAudit

open Syntax

namespace DangerousCalls

/-- The finding for a call of a dangerous function. -/
def report (n : Node) (function : String) : Finding :=
  { detector := "DangerousCallsDetector"
    severity := if function ∈ highRiskFunctions then .high else .medium
    description := "Call to dangerous function: " ++ function
    line := n.line
    column := n.column
    pattern := function }

/-- There is a finding for the calls of dangerous functions and for no other node. -/
theorem finding?_eq_some_iff {a : Arena} {len : Nat → Nat} (h : a.PreOrdered len) (c : Nat)
    (f : Finding) :
    finding? a c = some f ↔
      ∃ n function, a.node? c = some n ∧ a.Calls c function ∧ function ∈ dangerousFunctions ∧
        f = report n function := by
  have hreport : ∀ (n : Node) (function : String),
      (⟨name, callSeverity function, "Call to dangerous function: " ++ function, n.line, n.column,
        function⟩ : Finding) = report n function := by
    intro n function
    simp only [report, name, callSeverity, List.contains_iff_mem]
  unfold finding?
  constructor
  · intro hf
    split at hf
    next n function hn hcallee =>
      split_ifs at hf with hmem
      cases hf
      exact ⟨n, function, hn, (Arena.callee?_eq_some_iff h c function).1 hcallee,
        List.contains_iff_mem.1 hmem,
        hreport n function⟩
    next => cases hf
  · rintro ⟨n, function, hn, hcalls, hmem, rfl⟩
    rw [hn, (Arena.callee?_eq_some_iff h c function).2 hcalls]
    simp only [List.contains_iff_mem.2 hmem, if_true, hreport]

/-- A detector that looks at the nodes in order adds their findings in order. -/
theorem upTo_eq (a : Arena) (d : DangerousCalls) (k : Nat) :
    (Detector.dangerousCalls d).upTo a k =
      .dangerousCalls ⟨d.findings ++ (List.range k).filterMap (finding? a)⟩ := by
  induction k with
  | zero => simp [Detector.upTo_zero]
  | succ k ih =>
    rw [Detector.upTo_succ, ih, Detector.visit, visit, Context.during, filterMap_range_succ,
      ← List.append_assoc]

theorem walk_eq_findings {a : Arena} {len : Nat → Nat} (h : a.PreOrdered len) (d : DangerousCalls) :
    (walk a [.dangerousCalls d]).2 =
      [.dangerousCalls ⟨d.findings ++ (List.range a.size).filterMap (finding? a)⟩] := by
  rw [walk_eq h, List.map_singleton, upTo_eq, Detector.finalize]

end DangerousCalls

/-- **Names are found without a fault, and the dangerous calls are reported in pre-order, once
each.** -/
theorem names_and_dangerous_calls_of_tree (t : ParseTree) (d : DangerousCalls) :
    (∀ i, i < (Arena.ofTree t).size →
      (∃ found, (Arena.ofTree t).fetchSegments (Arena.ofTree t).size i = .ok found ∧
        (Arena.ofTree t).segments? i = found.map List.reverse) ∧
      (∀ name, (Arena.ofTree t).qualifiedName? i = some name ↔
        ∃ ss, (Arena.ofTree t).Spells i ss ∧ name = ".".intercalate ss) ∧
      ((Arena.ofTree t).qualifiedName? i = none ↔ ¬ ∃ ss, (Arena.ofTree t).Spells i ss)) ∧
    ∃ calls found,
      (walk (Arena.ofTree t) [.dangerousCalls d]).2 = [.dangerousCalls ⟨d.findings ++ found⟩] ∧
      calls.Pairwise (· < ·) ∧
      (∀ c, c ∈ calls ↔ ∃ function ∈ dangerousFunctions, (Arena.ofTree t).Calls c function) ∧
      List.Forall₂ (fun c f => ∃ n function, (Arena.ofTree t).node? c = some n ∧
        (Arena.ofTree t).Calls c function ∧ f = DangerousCalls.report n function) calls found := by
  have hpre := Arena.preOrdered_ofTree t
  refine ⟨fun i hi => ⟨⟨_, Arena.fetchSegments_eq hpre _ i hi (Nat.le_add_right _ i), rfl⟩,
    Arena.qualifiedName?_eq_some_iff hpre i, Arena.qualifiedName?_eq_none_iff hpre i⟩, ?_⟩
  obtain ⟨calls, hsorted, hmem, hfound⟩ :=
    exists_reported (DangerousCalls.finding? (Arena.ofTree t)) (Arena.ofTree t).size
  refine ⟨calls, _, DangerousCalls.walk_eq_findings hpre d, hsorted, fun c => ?_,
    hfound.imp fun c f hf => ?_⟩
  · rw [hmem]
    constructor
    · rintro ⟨-, f, hf⟩
      obtain ⟨n, function, -, hcalls, hdanger, -⟩ :=
        (DangerousCalls.finding?_eq_some_iff hpre c f).1 hf
      exact ⟨function, hdanger, hcalls⟩
    · rintro ⟨function, hdanger, hcalls⟩
      obtain ⟨n, hn, -⟩ := Arena.kind?_eq_some_iff.1 hcalls.1
      exact ⟨Arena.lt_size_of_node? hn, _,
        (DangerousCalls.finding?_eq_some_iff hpre c _).2 ⟨n, function, hn, hcalls, hdanger, rfl⟩⟩
  · obtain ⟨n, function, hn, hcalls, -, hreport⟩ :=
      (DangerousCalls.finding?_eq_some_iff hpre c f).1 hf
    exact ⟨n, function, hn, hcalls, hreport⟩

end PythonAudit
