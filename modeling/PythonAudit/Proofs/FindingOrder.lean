import PythonAudit.Proofs.DangerousCall
import PythonAudit.Proofs.DecodeChain
import PythonAudit.Proofs.Reuse

/-!
# The order of findings

* `InPreOrder R fs` says that `fs` are the findings that `R` gives to nodes, one for each node that
  has one, in the order of the numbers of the nodes;
* `exists_findings_walk_standard` says that after a walk the usual detectors hold the dangerous
  calls, and the decode chains before the literals of high entropy, all of them in pre-order;
* `findings_by_line` says how a report orders the findings of one line, and that it is the only way
  to sort the findings of the detectors by their lines and to keep their order otherwise.
-/

namespace PythonAudit

open Syntax

/-- The findings are those that `R` gives to nodes, in the order of the numbers of the nodes. -/
def InPreOrder (R : Nat → Finding → Prop) (fs : List Finding) : Prop :=
  ∃ ids : List Nat, ids.Pairwise (· < ·) ∧ (∀ c, c ∈ ids ↔ ∃ f, R c f) ∧ List.Forall₂ R ids fs

theorem inPreOrder_filterMap {R : Nat → Finding → Prop} {g : Nat → Option Finding} {size : Nat}
    (hR : ∀ c f, g c = some f ↔ R c f) (hsize : ∀ c f, R c f → c < size) :
    InPreOrder R ((List.range size).filterMap g) := by
  obtain ⟨ids, hsorted, hmem, hfound⟩ := exists_reported g size
  refine ⟨ids, hsorted, fun c => ?_, hfound.imp fun c f => (hR c f).1⟩
  rw [hmem]
  constructor
  · rintro ⟨-, f, hf⟩
    exact ⟨f, (hR c f).1 hf⟩
  · rintro ⟨f, hf⟩
    exact ⟨hsize c f hf, f, (hR c f).2 hf⟩

/-! ### What the usual detectors find -/

namespace Syntax.Arena

variable (a : Arena)

/-- Node `c` is a dangerous call, and `f` is the finding for it. -/
def DangerousFinding (c : Nat) (f : Finding) : Prop :=
  ∃ n function, a.node? c = some n ∧ a.Calls c function ∧ function ∈ dangerousFunctions ∧
    f = DangerousCalls.report n function

/-- Node `d` is the decoding call of a chain, and `f` is the finding for it. -/
def ChainFinding (d : Nat) (f : Finding) : Prop :=
  ∃ n e decoder executor, a.node? d = some n ∧ a.DecodeChain d e decoder executor ∧
    f = Obfuscation.chainReport n decoder executor

/-- The order in which the literal of node `l` is added up: each literal before it has taken one. -/
def orderOf (os : List Rearrangement) (l : Nat) : Rearrangement :=
  os.getD ((List.range l).filterMap (Obfuscation.literal? a)).length {}

/-- Node `l` has a string literal of high entropy, and `f` is the finding for it. -/
def EntropyFinding (th : Thresholds Double) (os : List Rearrangement) (l : Nat) (f : Finding) :
    Prop :=
  ∃ n value, a.node? l = some n ∧ n.literal = some value ∧
    Obfuscation.score th (a.orderOf os l) ⟨value, n.line, n.column⟩ = some f

end Syntax.Arena

theorem scores_filterMap_range (a : Arena) (th : Thresholds Double) (os : List Rearrangement)
    (k : Nat) :
    Obfuscation.scores th os ((List.range k).filterMap (Obfuscation.literal? a)) =
      (List.range k).filterMap fun i =>
        (Obfuscation.literal? a i).bind (Obfuscation.score th (a.orderOf os i)) := by
  induction k with
  | zero => rfl
  | succ k ih =>
    rw [filterMap_range_succ, filterMap_range_succ, Obfuscation.scores_append, ih]
    have horder : (os.drop ((List.range k).filterMap (Obfuscation.literal? a)).length).headD {} =
        a.orderOf os k := by
      rw [Arena.orderOf, List.getD_eq_getElem?_getD, List.headD_eq_head?_getD, List.head?_drop]
    cases Obfuscation.literal? a k with
    | none => rfl
    | some l => simp [Obfuscation.scores, ← horder]

theorem literal?_bind_score_eq_some_iff (a : Arena) (th : Thresholds Double)
    (os : List Rearrangement) (l : Nat) (f : Finding) :
    (Obfuscation.literal? a l).bind (Obfuscation.score th (a.orderOf os l)) = some f ↔
      a.EntropyFinding th os l f := by
  unfold Obfuscation.literal? Arena.EntropyFinding
  cases hn : a.node? l with
  | none => simp
  | some n =>
    cases hv : n.literal with
    | none => simp [hv]
    | some value => simp [hv]

/-- After a walk the usual detectors hold the dangerous calls in pre-order, and the decode chains in
pre-order before the literals in pre-order. -/
theorem exists_findings_walk_standard {a : Arena} {len : Nat → Nat} (h : a.PreOrdered len)
    (th : Thresholds Double) (os : List Rearrangement) :
    ∃ dangerous chains entropies,
      InPreOrder a.DangerousFinding dangerous ∧ InPreOrder a.ChainFinding chains ∧
      InPreOrder (a.EntropyFinding th os) entropies ∧
      (walk a (Detector.standard th os)).2.map Detector.findings =
        [dangerous, chains ++ entropies] := by
  refine ⟨(List.range a.size).filterMap (DangerousCalls.finding? a),
    (List.range a.size).filterMap fun i => Obfuscation.chainFinding? (Context.during a i) i,
    (List.range a.size).filterMap fun i =>
      (Obfuscation.literal? a i).bind (Obfuscation.score th (a.orderOf os i)),
    inPreOrder_filterMap (DangerousCalls.finding?_eq_some_iff h) ?_,
    inPreOrder_filterMap (Obfuscation.chainFinding?_eq_some_iff h) ?_,
    inPreOrder_filterMap (literal?_bind_score_eq_some_iff a th os) ?_, ?_⟩
  · rintro c f ⟨n, -, hn, -⟩
    exact Arena.lt_size_of_node? hn
  · rintro d f ⟨n, -, -, -, hn, -⟩
    exact Arena.lt_size_of_node? hn
  · rintro l f ⟨n, -, hn, -⟩
    exact Arena.lt_size_of_node? hn
  · rw [walk_eq h, ← scores_filterMap_range]
    simp [Detector.standard, DangerousCalls.upTo_eq, Obfuscation.upTo_eq, Detector.finalize,
      Obfuscation.finalize, Detector.findings]

/-! ### The order in a report -/

/-- Whatever an analyzer was used for, a reset leaves the usual detectors without findings. -/
theorem Analyzer.detectors_reset_after_new (th : Thresholds Double) (os : List Rearrangement)
    (calls : List Call) :
    ((Analyzer.new th os).after calls).reset.detectors =
      Detector.standard th (os.drop (Call.taken calls)) := by
  rw [Analyzer.reset_after]
  rfl

/-- **On each line of a report dangerous calls come first, then decode chains, then literals.**
Those of each kind are in pre-order, and no other way sorts them by lines and keeps their order on
each line. -/
theorem findings_by_line :
    (∀ (th : Thresholds Double) (os : List Rearrangement) (calls : List Call)
      (source label : String)
        (arena : Arena),
      parse source = .ok arena →
      ∃ r a, ((Analyzer.new th os).after calls).analyze source label = (r, a) ∧
        r.findings.Perm a.held ∧ r.findings.Pairwise (fun f g => f.line ≤ g.line) ∧
        ∃ dangerous chains entropies,
          InPreOrder arena.DangerousFinding dangerous ∧ InPreOrder arena.ChainFinding chains ∧
          InPreOrder (arena.EntropyFinding th (os.drop (Call.taken calls))) entropies ∧
          a.detectors.map Detector.findings = [dangerous, chains ++ entropies] ∧
          ∀ line, r.findings.filter (fun f => f.line = line) =
            dangerous.filter (fun f => f.line = line) ++ chains.filter (fun f => f.line = line) ++
              entropies.filter fun f => f.line = line) ∧
    ∀ ds : List Detector,
      (∀ fs, Finding.LineSorted (ds.flatMap Detector.findings) fs ↔ fs = Detector.aggregate ds) ∧
      ∀ label, (Report.success label (Detector.aggregate ds)).findings = Detector.aggregate ds := by
  refine ⟨fun th os calls source label arena hparse => ?_,
    fun ds => ⟨Finding.lineSorted_iff _, fun label => Report.findings_success_aggregate label ds⟩⟩
  have hpre : arena.PreOrdered _ := eq_ofTree_of_parse hparse ▸ Arena.preOrdered_ofTree _
  obtain ⟨dangerous, chains, entropies, hdangerous, hchains, hentropies, hheld⟩ :=
    exists_findings_walk_standard hpre th (os.drop (Call.taken calls))
  refine ⟨_, _, Analyzer.analyze_of_ok hparse _ label, ?_⟩
  rw [Analyzer.detectors_reset_after_new, Report.findings_success_aggregate]
  have hsorted := Detector.lineSorted_aggregate
    (walk arena (Detector.standard th (os.drop (Call.taken calls)))).2
  refine ⟨hsorted.perm, hsorted.ascending, dangerous, chains, entropies, hdangerous, hchains,
    hentropies, hheld,
    fun line => ?_⟩
  rw [hsorted.stable, List.flatMap_def, hheld]
  simp

/-- One line where a decode chain stands before a dangerous call. -/
def decodedThenSystem : String := "eval(b64decode(s)); os.system(a)\n"

theorem findings_by_line_of_decodedThenSystem :
    (∃ arena, parse decodedThenSystem = .ok arena) ∧
      ((((Analyzer.new Thresholds.standard).analyze decodedThenSystem "a.py").1.findings.filter
        fun f => f.line = 1).map (·.pattern)) = ["eval", "os.system", "b64decode -> eval"] := by
  have hparse : ∃ arena, parse decodedThenSystem = .ok arena := by
    have hok : (parse decodedThenSystem).isOk = true := by decide +kernel
    cases h : parse decodedThenSystem with
    | ok arena => exact ⟨arena, rfl⟩
    | error e => rw [h] at hok; cases hok
  refine ⟨hparse, ?_⟩
  obtain ⟨arena, hparse⟩ := hparse
  obtain ⟨r, a, hanalyze, -, -, dangerous, chains, entropies, -, -, -, hheld, hlines⟩ :=
    findings_by_line.1 Thresholds.standard [] [] _ "a.py" arena hparse
  have hpatterns :
    ((Analyzer.new Thresholds.standard).analyze decodedThenSystem "a.py").2.detectors.map
      ((fun fs => (fs.filter fun f => f.line = 1).map (·.pattern)) ∘ Detector.findings) =
        [["eval", "os.system"], ["b64decode -> eval"]] := by decide +kernel
  rw [show (Analyzer.new Thresholds.standard).after [] = Analyzer.new Thresholds.standard from rfl]
    at hanalyze
  rw [hanalyze, ← List.map_map, hheld] at hpatterns
  simp only [List.map_cons, List.map_nil, List.cons.injEq, and_true] at hpatterns
  obtain ⟨hdangerous, hothers⟩ := hpatterns
  rw [hanalyze, hlines, List.append_assoc, ← List.filter_append, List.map_append, hdangerous,
    hothers]
  rfl

end PythonAudit
