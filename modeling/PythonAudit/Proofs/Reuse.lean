import PythonAudit.Proofs.DangerousCall
import PythonAudit.Proofs.DecodeChain
import PythonAudit.Proofs.LineOrder
import PythonAudit.Scan

/-!
# Analyzers that are used again

An analyzer keeps its detectors from one use to the next, with the findings of the last source in
them.

* `Call` is one use of an analyzer, on a source or on a file, and `Analyzer.after a cs` is the
  analyzer after some uses;
* `Analyzer.reset` forgets all findings, and `Analyzer.spend n` drops the next `n` orders of
  summation. A use changes nothing else of what a reset leaves (`reset_after`), and a report depends
  on nothing else (`report_reset`), so the uses before leave no trace but the orders they took
  (`report_after`);
* `report_new_of_settled` says that the orders do not matter where every literal is settled;
* `held_analyze` says which findings the detectors hold after an analysis.
-/

namespace PythonAudit

open Syntax

/-! ### What a reset leaves -/

namespace Detector

/-- The detector without its next orders of summation. -/
def spend (n : Nat) : Detector → Detector
  | dangerousCalls d => dangerousCalls d
  | obfuscation d => obfuscation { d with orders := d.orders.drop n }

@[simp] theorem reset_reset (d : Detector) : d.reset.reset = d.reset := by
  cases d <;> rfl

@[simp] theorem reset_spend (n : Nat) (d : Detector) : (d.spend n).reset = d.reset.spend n := by
  cases d <;> rfl

@[simp] theorem findings_reset (d : Detector) : d.reset.findings = [] := by
  cases d <;> rfl

@[simp] theorem spend_zero (d : Detector) : d.spend 0 = d := by
  cases d <;> rfl

theorem spend_spend (m n : Nat) (d : Detector) : (d.spend m).spend n = d.spend (m + n) := by
  cases d <;> simp [spend]

end Detector

/-- The arena of a program is the arena of its tree. -/
theorem Syntax.eq_ofTree_of_parse {text : String} {a : Arena} (h : parse text = .ok a) :
    a = Arena.ofTree (ParseTree.ofText text) := by
  unfold parse at h
  simp only at h
  split_ifs at h
  split at h
  · cases h
  · cases h
    rfl

namespace Detector

/-- A walk takes one order for each literal, and changes nothing else that a reset leaves. -/
theorem reset_finalize_upTo (a : Arena) (d : Detector) :
    (d.reset.upTo a a.size).finalize.reset = d.reset.spend a.literals.length := by
  cases d with
  | dangerousCalls d =>
    rw [reset, DangerousCalls.upTo_eq]
    rfl
  | obfuscation d =>
    rw [reset, Obfuscation.upTo_eq]
    rfl

@[simp] theorem findings_withOrders (os : List Rearrangement) (d : Detector) :
    (d.withOrders os).findings = d.findings := by
  cases d <;> rfl

/-- Whatever orders a detector has, it ends the walk of settled literals alike, but for the orders
left. -/
theorem exists_finalize_withOrders {a : Arena} {d : Detector} (h : d.Settled a)
    (os : List Rearrangement) :
    ∃ left, ((d.withOrders os).upTo a a.size).finalize =
      (d.upTo a a.size).finalize.withOrders left := by
  cases d with
  | dangerousCalls d =>
    refine ⟨[], ?_⟩
    rw [withOrders, DangerousCalls.upTo_eq]
    rfl
  | obfuscation d =>
    refine ⟨os.drop (d.pending ++ a.literals).length, ?_⟩
    rw [withOrders, Obfuscation.upTo_eq, Obfuscation.upTo_eq]
    have hscores : Obfuscation.scores d.thresholds os (d.pending ++ a.literals) =
        Obfuscation.scores d.thresholds d.orders (d.pending ++ a.literals) :=
      Obfuscation.scores_eq_of_settled h os d.orders
    rw [Arena.literals] at hscores
    simp only [finalize, Obfuscation.finalize, withOrders, hscores, Arena.literals]

end Detector

theorem map_reset_walk {text : String} {a : Arena} (h : parse text = .ok a) (ds : List Detector) :
    (walk a (ds.map Detector.reset)).2.map Detector.reset =
      ds.map fun d => d.reset.spend a.literals.length := by
  rw [eq_ofTree_of_parse h, walk_eq (Arena.preOrdered_ofTree _), List.map_map, List.map_map]
  exact List.map_congr_left fun d _ => d.reset_finalize_upTo _

/-- Detectors that agree find the same. -/
theorem aggregate_walk_of_agrees {a : Arena} {len : Nat → Nat} (h : a.PreOrdered len)
    {ds es : List Detector} (hes : List.Forall₂ (Detector.Agrees a) ds es) :
    Detector.aggregate (walk a es).2 = Detector.aggregate (walk a ds).2 := by
  have hfound : (walk a es).2.map Detector.findings = (walk a ds).2.map Detector.findings := by
    rw [walk_eq h, walk_eq h, List.map_map, List.map_map, eq_comm, ← List.forall₂_eq_eq_eq,
      List.forall₂_map_left_iff, List.forall₂_map_right_iff]
    refine hes.imp ?_
    rintro d _ (rfl | ⟨hsettled, os, rfl⟩)
    · rfl
    · obtain ⟨left, hleft⟩ := Detector.exists_finalize_withOrders hsettled os
      simp only [Function.comp_apply, hleft, Detector.findings_withOrders]
  rw [Detector.aggregate, Detector.aggregate, List.flatMap_def, List.flatMap_def, hfound]

/-! ### One analysis -/

namespace Analyzer

/-- The analyzer without its findings. -/
def reset (a : Analyzer) : Analyzer := ⟨a.detectors.map Detector.reset⟩

/-- The analyzer without the next orders of its detectors. -/
def spend (n : Nat) (a : Analyzer) : Analyzer := ⟨a.detectors.map (Detector.spend n)⟩

/-- The findings that the detectors hold. -/
def held (a : Analyzer) : List Finding := a.detectors.flatMap Detector.findings

@[simp] theorem detectors_reset (a : Analyzer) :
    a.reset.detectors = a.detectors.map Detector.reset := rfl

@[simp] theorem reset_reset (a : Analyzer) : a.reset.reset = a.reset := by
  simp [reset, Function.comp_def]

@[simp] theorem reset_spend (n : Nat) (a : Analyzer) : (a.spend n).reset = a.reset.spend n := by
  simp [reset, spend, Function.comp_def]

@[simp] theorem spend_zero (a : Analyzer) : a.spend 0 = a := by
  cases a with
  | mk ds => exact congrArg mk ((List.map_congr_left fun d _ => d.spend_zero).trans ds.map_id)

theorem spend_spend (m n : Nat) (a : Analyzer) : (a.spend m).spend n = a.spend (m + n) := by
  simp [spend, Function.comp_def, Detector.spend_spend]

@[simp] theorem spend_new (n : Nat) (th : Thresholds Double) (os : List Rearrangement) :
    (new th os).spend n = new th (os.drop n) := rfl

@[simp] theorem reset_new (th : Thresholds Double) (os : List Rearrangement) :
    (new th os).reset = new th os := rfl

theorem analyze_of_ok {source : String} {arena : Arena} (h : parse source = .ok arena)
    (a : Analyzer) (label : String) :
    a.analyze source label =
      (Report.success label (Detector.aggregate (walk arena a.reset.detectors).2),
        ⟨(walk arena a.reset.detectors).2⟩) := by
  unfold analyze
  rw [h]
  rfl

theorem analyze_of_error {source : String} {e : ParseError} (h : parse source = .error e)
    (a : Analyzer) (label : String) :
    a.analyze source label =
      (Report.failure label (Fallback.findings source) e.written, a.reset) := by
  unfold analyze
  rw [h]
  rfl

/-- An analysis depends on nothing but what a reset leaves. -/
theorem analyze_reset (a : Analyzer) (source label : String) :
    a.reset.analyze source label = a.analyze source label := by
  cases h : parse source with
  | ok arena => rw [analyze_of_ok h, analyze_of_ok h, reset_reset]
  | error e => rw [analyze_of_error h, analyze_of_error h, reset_reset]

end Analyzer

/-- The literals of a program; a source that cannot be parsed has none. -/
def literalsOf (source : String) : List PendingLiteral :=
  match parse source with
  | .ok arena => arena.literals
  | .error _ => []

theorem literalsOf_of_ok {source : String} {arena : Arena} (h : parse source = .ok arena) :
    literalsOf source = arena.literals := by
  delta literalsOf
  rw [h]

theorem literalsOf_of_error {source : String} {e : ParseError} (h : parse source = .error e) :
    literalsOf source = [] := by
  delta literalsOf
  rw [h]

namespace Analyzer

/-- An analysis takes one order for each literal, and changes nothing else that a reset leaves. -/
theorem reset_analyze (a : Analyzer) (source label : String) :
    (a.analyze source label).2.reset = a.reset.spend (literalsOf source).length := by
  cases h : parse source with
  | ok arena =>
    rw [analyze_of_ok h, reset, detectors_reset, map_reset_walk h, literalsOf_of_ok h]
    simp [spend, reset, Function.comp_def]
  | error e =>
    rw [analyze_of_error h, reset_reset, literalsOf_of_error h, List.length_nil, spend_zero]

/-- A report of settled literals does not depend on the orders that there are. -/
theorem analyze_new_of_settled {th : Thresholds Double} {source : String}
    (h : ∀ l ∈ literalsOf source, Obfuscation.Settled th l.value) (os os' : List Rearrangement)
    (label : String) :
    ((new th os).analyze source label).1 = ((new th os').analyze source label).1 := by
  cases hparse : parse source with
  | ok arena =>
    rw [literalsOf_of_ok hparse] at h
    have hagrees : List.Forall₂ (Detector.Agrees arena) (new th os').detectors
        (new th os).detectors :=
      .cons (Or.inl rfl) (.cons (Or.inr ⟨h, os, rfl⟩) .nil)
    have hpre : arena.PreOrdered _ := eq_ofTree_of_parse hparse ▸ Arena.preOrdered_ofTree _
    rw [analyze_of_ok hparse, analyze_of_ok hparse, reset_new, reset_new,
      aggregate_walk_of_agrees hpre hagrees]
  | error e => rw [analyze_of_error hparse, analyze_of_error hparse]

/-- After an analysis the detectors hold the findings of the report when the source could be parsed,
and none when it could not. -/
theorem held_analyze (a : Analyzer) (source label : String) :
    match parse source with
    | .ok _ => (a.analyze source label).1.status = .success ∧
        (a.analyze source label).2.held.Perm (a.analyze source label).1.findings
    | .error _ =>
      (a.analyze source label).1.status = .error ∧ (a.analyze source label).2.held = [] := by
  cases h : parse source with
  | ok arena =>
    rw [analyze_of_ok h]
    refine ⟨rfl, ?_⟩
    rw [Report.findings_success_aggregate]
    exact (Detector.lineSorted_aggregate _).perm.symm
  | error e =>
    rw [analyze_of_error h]
    refine ⟨rfl, ?_⟩
    simp [held]

end Analyzer

/-! ### Any number of uses -/

/-- One use of an analyzer: of a source with its label, or of a file of a tree. -/
inductive Call where
  | source (text label : String)
  | file (tree : FileTree) (path : String)

/-- The report of a use, and the analyzer after it. -/
def Call.perform : Call → Analyzer → Report × Analyzer
  | source text label, a => a.analyze text label
  | file tree path, a => a.analyzeFile tree path

/-- The analyzer after some uses. -/
def Analyzer.after (a : Analyzer) (cs : List Call) : Analyzer :=
  cs.foldl (fun a c => (c.perform a).2) a

/-- The literals that a use scores. -/
def Call.literals : Call → List PendingLiteral
  | source text _ => literalsOf text
  | file tree path => ((tree.readSource path).map literalsOf).toOption.getD []

/-- No literal of the use depends on the order of summation. -/
def Call.Settled (th : Thresholds Double) (c : Call) : Prop :=
  ∀ l ∈ c.literals, Obfuscation.Settled th l.value

/-- The orders that some uses take. -/
def Call.taken (cs : List Call) : Nat := (cs.map fun c => c.literals.length).sum

namespace Call

theorem report_reset (c : Call) (a : Analyzer) : (c.perform a.reset).1 = (c.perform a).1 := by
  cases c with
  | source text label => rw [perform, perform, Analyzer.analyze_reset]
  | file tree path =>
    rw [perform, perform, Analyzer.analyzeFile, Analyzer.analyzeFile]
    cases tree.readSource path with
    | ok text => simp only [Analyzer.analyze_reset]
    | error e => rfl

theorem reset_perform (c : Call) (a : Analyzer) :
    (c.perform a).2.reset = a.reset.spend c.literals.length := by
  cases c with
  | source text label => exact Analyzer.reset_analyze a text label
  | file tree path =>
    rw [perform, Analyzer.analyzeFile, literals]
    cases tree.readSource path with
    | ok text => exact Analyzer.reset_analyze a text path
    | error e => exact (Analyzer.spend_zero _).symm

theorem report_new_of_settled {th : Thresholds Double} {c : Call} (h : c.Settled th)
    (os os' : List Rearrangement) :
    (c.perform (Analyzer.new th os)).1 = (c.perform (Analyzer.new th os')).1 := by
  cases c with
  | source text label => exact Analyzer.analyze_new_of_settled h os os' label
  | file tree path =>
    rw [perform, perform, Analyzer.analyzeFile, Analyzer.analyzeFile]
    rw [Settled, literals] at h
    cases hread : tree.readSource path with
    | ok text =>
      rw [hread] at h
      exact Analyzer.analyze_new_of_settled h os os' path
    | error e => rfl

end Call

namespace Analyzer

theorem reset_after (a : Analyzer) (cs : List Call) :
    (a.after cs).reset = a.reset.spend (Call.taken cs) := by
  induction cs generalizing a with
  | nil => exact (spend_zero a.reset).symm
  | cons c cs ih =>
    rw [after, List.foldl_cons, ← after, ih, c.reset_perform, spend_spend, Call.taken, Call.taken,
      List.map_cons, List.sum_cons]

/-- A report depends only on what a reset of the analyzer leaves. -/
theorem report_eq_of_reset_eq {a b : Analyzer} (h : a.reset = b.reset) (c : Call) :
    (c.perform a).1 = (c.perform b).1 := by
  rw [← Call.report_reset, h, Call.report_reset]

/-- Of the uses before, a report depends on nothing but the orders that they took. -/
theorem report_after (a : Analyzer) (cs : List Call) (c : Call) :
    (c.perform (a.after cs)).1 = (c.perform (a.spend (Call.taken cs))).1 :=
  report_eq_of_reset_eq (by rw [reset_after, reset_spend]) c

/-- After any uses an analyzer may give the reports that a new one may give. -/
theorem exists_report_after_iff (th : Thresholds Double) (cs : List Call) (c : Call) (r : Report) :
    (∃ os, (c.perform ((new th os).after cs)).1 = r) ↔ ∃ os, (c.perform (new th os)).1 = r := by
  simp only [report_after, spend_new]
  constructor
  · rintro ⟨os, h⟩
    exact ⟨_, h⟩
  · rintro ⟨os, h⟩
    refine ⟨List.replicate (Call.taken cs) default ++ os, ?_⟩
    rwa [List.drop_append_of_le_length (by simp), List.drop_eq_nil_of_le (by simp), List.nil_append]

end Analyzer

end PythonAudit
