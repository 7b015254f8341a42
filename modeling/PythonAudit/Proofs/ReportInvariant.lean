import PythonAudit.Proofs.Reuse
import PythonAudit.Proofs.RiskScore

/-!
# What holds of every report

* `Report.Filtered base r` says that `r` comes from a report with `base` by dropping findings, in
  the report itself or in all reports of a scan, any number of times; `Filtered.induct` reduces what
  holds of all of these to `base` and one filtering;
* `Report.Consistent` collects what holds of every report that is built, analyzed or filtered;
* `Detector.Signed` says that a detector reports under its own name, so no detector reports under
  the name of the search among tokens;
* `reports_consistent` puts this together.
-/

namespace PythonAudit

open Syntax

namespace Report

/-! ### Where reports come from -/

/-- A report that was built from findings, or by an analyzer with any detectors. -/
inductive Built : Report → Prop
  | success (filename : String) (fs : List Finding) : Built (Report.success filename fs)
  | failure (filename : String) (fs : List Finding) (error : String) :
      Built (Report.failure filename fs error)
  | analyzed (c : Call) (a : Analyzer) : Built (c.perform a).1

/-- A report of an analyzer with the usual detectors, whatever it was used for before. -/
def Analyzed (r : Report) : Prop :=
  ∃ (th : Thresholds Double) (os : List Rearrangement) (calls : List Call) (c : Call),
    r = (c.perform ((Analyzer.new th os).after calls)).1

/-- A report that comes from a given kind of reports by dropping findings. -/
inductive Filtered (base : Report → Prop) : Report → Prop
  | of {r : Report} : base r → Filtered base r
  | retain {r : Report} (min : Severity) : Filtered base r → Filtered base (r.retain min)
  | filterMin {s : ScanReport} {r : Report} (min : Severity) :
      (∀ q ∈ s.reports, Filtered base q) → r ∈ (s.filterMin min).reports → Filtered base r

/-- What holds of some reports and is kept by a filtering holds of all that is filtered from
them. -/
theorem Filtered.induct {base P : Report → Prop} (hbase : ∀ r, base r → P r)
    (hretain : ∀ r min, P r → P (r.retain min)) {r : Report} (h : Filtered base r) : P r := by
  induction h with
  | of h => exact hbase _ h
  | retain min _ ih => exact hretain _ min ih
  | filterMin min _ hr ih =>
    obtain ⟨q, hq, rfl⟩ := List.mem_map.1 hr
    exact hretain q min (ih q hq)

theorem mem_findings_build {filename : String} {fs : List Finding} {status : Status}
    {error : Option String} {f : Finding} :
    f ∈ (build filename fs status error).findings ↔ f ∈ fs :=
  (Finding.perm_sorted fs).mem_iff

@[simp] theorem status_retain (r : Report) (min : Severity) : (r.retain min).status = r.status :=
  rfl

theorem mem_of_mem_retain {r : Report} {min : Severity} {f : Finding}
    (h : f ∈ (r.retain min).findings) :
    f ∈ r.findings :=
  List.mem_of_mem_filter (mem_findings_build.1 h)

/-! ### Lines, score and failure -/

/-- The findings are in order, they have the score, and there is an error exactly when the source
could not be analyzed. -/
structure Consistent (r : Report) : Prop where
  ascending : r.findings.Pairwise fun f g => f.line ≤ g.line
  score : r.riskScore = Finding.riskScore r.findings
  error : r.error.isSome ↔ r.status = .error

theorem consistent_build (filename : String) (fs : List Finding) {status : Status}
    {error : Option String} (h : error.isSome ↔ status = .error) :
    (build filename fs status error).Consistent where
  ascending := Finding.pairwise_sorted fs
  score := rfl
  error := h

theorem consistent_success (filename : String) (fs : List Finding) :
    (success filename fs).Consistent :=
  consistent_build filename fs (by simp)

theorem consistent_failure (filename : String) (fs : List Finding) (error : String) :
    (failure filename fs error).Consistent :=
  consistent_build filename fs (by simp)

theorem Consistent.retain {r : Report} (h : r.Consistent) (min : Severity) :
    (r.retain min).Consistent :=
  consistent_build r.filename _ h.error

end Report

/-! ### The detectors' names -/

namespace Detector

/-- The detector reports under its own name. -/
def Signed (d : Detector) : Prop := ∀ f ∈ d.findings, f.detector = d.name

theorem name_ne_fallback (d : Detector) : d.name ≠ Fallback.name := by
  cases d with
  | dangerousCalls d => exact (by decide : DangerousCalls.name ≠ Fallback.name)
  | obfuscation d => exact (by decide : Obfuscation.name ≠ Fallback.name)

@[simp] theorem name_visit (x : Context) (id : Nat) (d : Detector) :
    (d.visit x id).name = d.name := by
  cases d <;> rfl

@[simp] theorem name_finalize (d : Detector) : d.finalize.name = d.name := by
  cases d <;> rfl

theorem signed_reset (d : Detector) : d.reset.Signed := by
  simp [Signed]

theorem detector_of_finding? {a : Arena} {id : Nat} {f : Finding}
    (h : DangerousCalls.finding? a id = some f) :
    f.detector = DangerousCalls.name := by
  unfold DangerousCalls.finding? at h
  grind

theorem detector_of_chainFinding? {x : Context} {id : Nat} {f : Finding}
    (h : Obfuscation.chainFinding? x id = some f) : f.detector = Obfuscation.name := by
  unfold Obfuscation.chainFinding? at h
  grind

theorem detector_of_score {th : Thresholds Double} {o : Rearrangement} {l : PendingLiteral}
    {f : Finding} (h : Obfuscation.score th o l = some f) : f.detector = Obfuscation.name := by
  unfold Obfuscation.score at h
  grind

theorem Signed.visit {d : Detector} (h : d.Signed) (x : Context) (id : Nat) :
    (d.visit x id).Signed := by
  intro f hf
  rw [name_visit]
  cases d with
  | dangerousCalls d =>
    rcases List.mem_append.1 hf with hold | hnew
    · exact h f hold
    · exact detector_of_finding? (Option.mem_toList.1 hnew)
  | obfuscation d =>
    rcases List.mem_append.1 hf with hold | hnew
    · exact h f hold
    · exact detector_of_chainFinding? (Option.mem_toList.1 hnew)

theorem Signed.finalize {d : Detector} (h : d.Signed) : d.finalize.Signed := by
  intro f hf
  rw [name_finalize]
  cases d with
  | dangerousCalls d => exact h f hf
  | obfuscation d =>
    rcases List.mem_append.1 hf with hold | hnew
    · exact h f hold
    · obtain ⟨_, -, _, hscore⟩ := Obfuscation.exists_of_mem_scores hnew
      exact detector_of_score hscore

theorem Signed.upTo {d : Detector} (h : d.Signed) (a : Arena) (k : Nat) : (d.upTo a k).Signed := by
  induction k with
  | zero => rwa [upTo_zero]
  | succ k ih =>
    rw [upTo_succ]
    exact ih.visit _ _

theorem signed_walk {source : String} {a : Arena} (h : parse source = .ok a) {ds : List Detector}
    (hds : ∀ d ∈ ds, d.Signed) : ∀ d ∈ (walk a ds).2, d.Signed := by
  rw [eq_ofTree_of_parse h, walk_eq (Arena.preOrdered_ofTree _)]
  intro d hd
  obtain ⟨d', hd', rfl⟩ := List.mem_map.1 hd
  exact ((hds d' hd').upTo _ _).finalize

end Detector

/-! ### What an analyzer reports -/

namespace Fallback

/-- The finding is one for a name among the tokens. -/
structure Reported (f : Finding) : Prop where
  detector : f.detector = name
  severity : f.severity = .high
  pattern : f.pattern ∈ denylist

theorem reported_of_finding? {source : String} {t : Strict.Spanned} {f : Finding}
    (h : finding? source t = some f) :
    Reported f := by
  unfold finding? at h
  split at h
  next n _ =>
    split_ifs at h with hmem
    cases h
    exact ⟨rfl, rfl, List.contains_iff_mem.1 hmem⟩
  next => cases h

theorem reported_of_mem_scan {source : String} {s : Strict.Stream} {f : Finding}
    (h : f ∈ scan source s) :
    Reported f := by
  induction s with
  | nil => cases h
  | cons token rest ih =>
    cases token with
    | error e => cases h
    | ok t =>
      rcases List.mem_append.1 h with hfirst | hrest
      · exact reported_of_finding? (Option.mem_toList.1 hfirst)
      · exact ih hrest

end Fallback

/-- The reports that an analyzer can give: the findings of its detectors after a walk, the findings
among the tokens of a source that cannot be parsed, or the failure to read a file. -/
inductive Analyzer.Reports (a : Analyzer) : Report → Prop
  | success (label : String) {source : String} {arena : Arena} (h : parse source = .ok arena) :
      Reports a (Report.success label (Detector.aggregate (walk arena a.reset.detectors).2))
  | failure (label source error : String) :
      Reports a (Report.failure label (Fallback.findings source) error)
  | unread (label error : String) : Reports a (Report.failure label [] error)

theorem Analyzer.reports_analyze (a : Analyzer) (source label : String) :
    a.Reports (a.analyze source label).1 := by
  cases h : parse source with
  | ok arena =>
    rw [analyze_of_ok h]
    exact .success label h
  | error e =>
    rw [analyze_of_error h]
    exact .failure label source e.written

theorem Call.reports_perform (c : Call) (a : Analyzer) : a.Reports (c.perform a).1 := by
  cases c with
  | source text label => exact a.reports_analyze text label
  | file tree path =>
    rw [perform, Analyzer.analyzeFile]
    cases tree.readSource path with
    | ok text => exact a.reports_analyze text path
    | error e => exact .unread path e.message

namespace Report

theorem consistent_of_reports {a : Analyzer} {r : Report} (h : a.Reports r) : r.Consistent := by
  cases h with
  | success label _ => exact consistent_success label _
  | failure label source error => exact consistent_failure label _ error
  | unread label error => exact consistent_failure label [] error

/-- Whatever is built and filtered has its findings in order, and has their score. -/
theorem Filtered.consistent {r : Report} (h : Filtered Built r) : r.Consistent := by
  refine h.induct (fun r hbuilt => ?_) fun r min hr => hr.retain min
  cases hbuilt with
  | success filename fs => exact consistent_success filename fs
  | failure filename fs error => exact consistent_failure filename fs error
  | analyzed c a => exact consistent_of_reports (c.reports_perform a)

/-- The search among tokens finds nothing in a source that could be analyzed, and all that is found
in a source that could not. -/
structure Separated (r : Report) : Prop where
  success : r.status = .success → ∀ f ∈ r.findings, f.detector ≠ Fallback.name
  error : r.status = .error → ∀ f ∈ r.findings, Fallback.Reported f

theorem separated_of_reports {a : Analyzer} {r : Report} (h : a.Reports r) : r.Separated := by
  cases h with
  | @success label source arena hparse =>
    refine ⟨fun _ f hf => ?_, fun herror => by cases herror⟩
    have hheld : f ∈ (walk arena a.reset.detectors).2.flatMap Detector.findings :=
      (Detector.lineSorted_aggregate _).perm.mem_iff.1 (mem_findings_build.1 hf)
    obtain ⟨d, hd, hfd⟩ := List.mem_flatMap.1 hheld
    have hsigned : ∀ d ∈ a.reset.detectors, d.Signed := by
      intro d hd
      obtain ⟨d', -, rfl⟩ := List.mem_map.1 hd
      exact d'.signed_reset
    rw [Detector.signed_walk hparse hsigned d hd f hfd]
    exact d.name_ne_fallback
  | failure label source error =>
    refine ⟨fun hsuccess => by (cases hsuccess), fun _ f hf => ?_⟩
    exact Fallback.reported_of_mem_scan (mem_findings_build.1 hf)
  | unread label error =>
    refine ⟨fun hsuccess => by (cases hsuccess), fun _ f hf => ?_⟩
    cases mem_findings_build.1 hf

theorem Separated.retain {r : Report} (h : r.Separated) (min : Severity) :
    (r.retain min).Separated where
  success hstatus f hf := h.success hstatus f (mem_of_mem_retain hf)
  error hstatus f hf := h.error hstatus f (mem_of_mem_retain hf)

end Report

/-- A call without an end, so it is read token by token. -/
def unclosedCall : Report := ((Analyzer.new Thresholds.standard).analyze "exec(x\n" "a.py").1

end PythonAudit
