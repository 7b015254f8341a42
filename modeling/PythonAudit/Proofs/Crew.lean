import Mathlib.Logic.Function.Basic
import Mathlib.Logic.Relation
import PythonAudit.Proofs.Reuse

/-!
# Scans shared out among workers

The files of a directory may be analyzed by several workers at once. A worker takes any file that
waits, with the analyzer it has used before or with a new one, and puts the report at the place of
the file. In which orders an analyzer adds up the characters of literals is left open.

* `Crew` holds the workers and how far each file has got, and `Crew.Step` is one thing that a worker
  does;
* `ScanSettings.MayReport` says which reports a new analyzer may give for a file;
* `Crew.Sound` is what holds at all times (`sound_of_reaches`): the workers differ from new ones in
  nothing that a reset leaves, no two of them work on one file, and every report that is there is
  one that a new analyzer may give;
* `exists_step` says that the workers are never stuck, and `left_step` that they get nearer to the
  end with every step;
* `ScanSettings.MayScan` says which results a scan may have, whatever the workers do, and
  `mayScan_iff` that these are the results that new analyzers may give, one for each file.
-/

namespace PythonAudit

open Syntax Relation

/-! ### Workers and files -/

/-- A worker: its analyzer, and the place of the file it works on. -/
structure Worker where
  analyzer : Analyzer
  job : Option Nat := none

/-- How far a file has got. -/
inductive Progress where
  | waiting
  | taken
  | done (report : Report)

/-- The steps that a file still needs. -/
def Progress.left : Progress → Nat
  | waiting => 2
  | taken => 1
  | done _ => 0

/-- The report of a file, once it is there. -/
def Progress.report? : Progress → Option Report
  | done r => some r
  | _ => none

/-- The workers of a scan, and how far its files have got. -/
structure Crew where
  workers : Nat → Worker
  files : List Progress

/-- A new analyzer may give the report for a file. -/
def ScanSettings.MayReport (s : ScanSettings) (t : FileTree) (path : String) (r : Report) : Prop :=
  ∃ os, ((Analyzer.new s.thresholds os).analyzeFile t path).1 = r

namespace Crew

/-- All workers have new analyzers and nothing to do, and all files wait. -/
def start (s : ScanSettings) (paths : List String) (orders : Nat → List Rearrangement) : Crew :=
  ⟨fun w => ⟨Analyzer.new s.thresholds (orders w), none⟩, paths.map fun _ => .waiting⟩

/-- One thing that a worker does. -/
inductive Step (s : ScanSettings) (t : FileTree) (paths : List String) : Crew → Crew → Prop
  /-- A worker with nothing to do takes a file, and goes on with its analyzer or gets a new one. -/
  | take {c : Crew} {w i : Nat} {a : Analyzer} : (c.workers w).job = none →
      c.files[i]? = some .waiting →
      (a = (c.workers w).analyzer ∨ ∃ os, a = Analyzer.new s.thresholds os) →
      Step s t paths c ⟨Function.update c.workers w ⟨a, some i⟩, c.files.set i .taken⟩
  /-- A worker comes to the end of its file. -/
  | finish {c : Crew} {w i : Nat} {path : String} {r : Report} {a : Analyzer} :
      (c.workers w).job = some i →
      paths[i]? = some path → (c.workers w).analyzer.analyzeFile t path = (r, a) →
      Step s t paths c ⟨Function.update c.workers w ⟨a, none⟩, c.files.set i (.done r)⟩

/-- The workers may come from one state to another. -/
abbrev Reaches (s : ScanSettings) (t : FileTree) (paths : List String) : Crew → Crew → Prop :=
  ReflTransGen (Step s t paths)

/-- Every file has its report. -/
def Finished (c : Crew) : Prop := ∀ f ∈ c.files, ∃ r, f = .done r

/-- The reports, in the order of the files. -/
def reports (c : Crew) : List Report := c.files.filterMap Progress.report?

/-- The steps that all files together still need. -/
def left (c : Crew) : Nat := (c.files.map Progress.left).sum

/-! ### What holds at all times -/

/-- No worker has anything but a used analyzer, no two work on one file, and the reports are such as
new analyzers may give. -/
structure Sound (s : ScanSettings) (t : FileTree) (paths : List String) (c : Crew) : Prop where
  length : c.files.length = paths.length
  analyzer : ∀ w, ∃ os, (c.workers w).analyzer.reset = Analyzer.new s.thresholds os
  taken : ∀ i : Nat, c.files[i]? = some .taken ↔ ∃ w, (c.workers w).job = some i
  alone : ∀ v w i, (c.workers v).job = some i → (c.workers w).job = some i → v = w
  report : ∀ (i : Nat) (r : Report), c.files[i]? = some (.done r) →
    ∃ path, paths[i]? = some path ∧ s.MayReport t path r

section

variable {s : ScanSettings} {t : FileTree} {paths : List String} {c c' : Crew}

theorem waiting_of_start {orders : Nat → List Rearrangement} {i : Nat} {f : Progress}
    (h : (start s paths orders).files[i]? = some f) : f = .waiting := by
  rw [start, List.getElem?_map, Option.map_eq_some_iff] at h
  obtain ⟨_, -, rfl⟩ := h
  rfl

theorem sound_start (s : ScanSettings) (t : FileTree) (paths : List String)
    (orders : Nat → List Rearrangement) : Sound s t paths (start s paths orders) where
  length := List.length_map _
  analyzer := fun w => ⟨orders w, rfl⟩
  taken := by
    intro i
    refine iff_of_false (fun h => ?_) ?_
    · cases waiting_of_start h
    · rintro ⟨w, hw⟩
      cases hw
  alone := by
    intro v w i hv
    cases hv
  report := by
    intro i r hr
    cases waiting_of_start hr

/-- Only the file of a changed place changes. -/
theorem getElem?_set_eq {fs : List Progress} {i : Nat} {f : Progress} (h : fs[i]? = some f)
    (g : Progress) (j : Nat) :
    (fs.set i g)[j]? = if j = i then some g else fs[j]? := by
  obtain ⟨hi, -⟩ := List.getElem?_eq_some_iff.1 h
  rw [List.getElem?_set]
  by_cases hj : j = i
  · rw [if_pos hj.symm, if_pos (hj ▸ hi), if_pos hj]
  · rw [if_neg (Ne.symm hj), if_neg hj]

/-- Only the job of a changed worker changes. -/
theorem job_update (workers : Nat → Worker) (w : Nat) (x : Worker) (v : Nat) :
    (Function.update workers w x v).job = if v = w then x.job else (workers v).job := by
  rw [Function.update_apply, apply_ite Worker.job]

theorem Sound.analyzer_update (h : Sound s t paths c) {x : Worker}
    (hx : ∃ os, x.analyzer.reset = Analyzer.new s.thresholds os) (w v : Nat) :
    ∃ os, (Function.update c.workers w x v).analyzer.reset = Analyzer.new s.thresholds os := by
  rw [Function.update_apply]
  split_ifs
  · exact hx
  · exact h.analyzer v

theorem Sound.take (h : Sound s t paths c) {w i : Nat} {a : Analyzer}
    (hidle : (c.workers w).job = none) (hwait : c.files[i]? = some .waiting)
    (ha : ∃ os, a.reset = Analyzer.new s.thresholds os) :
    Sound s t paths ⟨Function.update c.workers w ⟨a, some i⟩, c.files.set i .taken⟩ where
  length := by rw [List.length_set, h.length]
  analyzer := h.analyzer_update ha w
  taken := by
    intro j
    simp only [getElem?_set_eq hwait, job_update]
    by_cases hj : j = i
    · rw [if_pos hj]
      exact iff_of_true rfl ⟨w, by rw [if_pos rfl, hj]⟩
    · rw [if_neg hj, h.taken j]
      refine exists_congr fun v => ?_
      by_cases hv : v = w
      · rw [if_pos hv, hv, hidle]
        exact iff_of_false (by simp) (by simpa using Ne.symm hj)
      · rw [if_neg hv]
  alone := by
    intro u v j hu hv
    rw [job_update] at hu hv
    -- nobody else has the file that waits
    have hnobody : ∀ x, (c.workers x).job ≠ some i := by
      intro x hx
      have htaken := (h.taken i).2 ⟨x, hx⟩
      rw [hwait] at htaken
      cases htaken
    by_cases huw : u = w <;> by_cases hvw : v = w
    · rw [huw, hvw]
    · rw [if_pos huw] at hu
      rw [if_neg hvw, ← hu] at hv
      exact absurd hv (hnobody v)
    · rw [if_pos hvw] at hv
      rw [if_neg huw, ← hv] at hu
      exact absurd hu (hnobody u)
    · rw [if_neg huw] at hu
      rw [if_neg hvw] at hv
      exact h.alone u v j hu hv
  report := by
    intro j r hr
    rw [getElem?_set_eq hwait] at hr
    split_ifs at hr
    · cases hr
    · exact h.report j r hr

theorem Sound.finish (h : Sound s t paths c) {w i : Nat} {path : String} {r : Report} {a : Analyzer}
    (hjob : (c.workers w).job = some i) (hpath : paths[i]? = some path)
    (hrun : (c.workers w).analyzer.analyzeFile t path = (r, a)) :
    Sound s t paths ⟨Function.update c.workers w ⟨a, none⟩, c.files.set i (.done r)⟩ := by
  have htaken : c.files[i]? = some .taken := (h.taken i).2 ⟨w, hjob⟩
  obtain ⟨os, hos⟩ := h.analyzer w
  have hreport : s.MayReport t path r := by
    refine ⟨os, ?_⟩
    have heq :=
      Analyzer.report_eq_of_reset_eq (hos.trans (Analyzer.reset_new _ os).symm) (.file t path)
    rw [Call.perform, Call.perform, hrun] at heq
    exact heq.symm
  have hreset : ∃ os, a.reset = Analyzer.new s.thresholds os := by
    have heq := (Call.file t path).reset_perform (c.workers w).analyzer
    rw [Call.perform, hrun, hos, Analyzer.spend_new] at heq
    exact ⟨_, heq⟩
  refine ⟨by rw [List.length_set, h.length], h.analyzer_update hreset w, fun j => ?_,
    fun u v j hu hv => ?_,
    fun j q hq => ?_⟩
  · simp only [getElem?_set_eq htaken, job_update]
    by_cases hj : j = i
    · rw [if_pos hj]
      refine iff_of_false (by simp) ?_
      rintro ⟨v, hv⟩
      split_ifs at hv with hvw
      exact hvw (h.alone v w i (hj ▸ hv) hjob)
    · rw [if_neg hj, h.taken j]
      refine exists_congr fun v => ?_
      by_cases hv : v = w
      · rw [if_pos hv, hv, hjob]
        exact iff_of_false (by simpa using Ne.symm hj) (by simp)
      · rw [if_neg hv]
  · rw [job_update] at hu hv
    split_ifs at hu hv
    exact h.alone u v j hu hv
  · rw [getElem?_set_eq htaken] at hq
    split_ifs at hq with hj
    · cases hq
      exact ⟨path, hj ▸ hpath, hreport⟩
    · exact h.report j q hq

theorem Sound.step (h : Sound s t paths c) (hstep : Step s t paths c c') : Sound s t paths c' := by
  cases hstep with
  | @take w i a hidle hwait ha =>
    refine h.take hidle hwait ?_
    rcases ha with rfl | ⟨os, rfl⟩
    · exact h.analyzer w
    · exact ⟨os, Analyzer.reset_new _ os⟩
  | finish hjob hpath hrun => exact h.finish hjob hpath hrun

theorem sound_of_reaches {orders : Nat → List Rearrangement}
    (h : Reaches s t paths (start s paths orders) c) : Sound s t paths c := by
  induction h with
  | refl => exact sound_start s t paths orders
  | tail _ hstep ih => exact ih.step hstep

/-! ### The end is reached -/

/-- The workers are never stuck: a worker that has a file can finish it, and when none has one, a
file that waits can be taken. -/
theorem Sound.exists_step (h : Sound s t paths c) (hc : ¬ c.Finished) :
    ∃ c', Step s t paths c c' := by
  by_cases hbusy : ∃ w i, (c.workers w).job = some i
  · obtain ⟨w, i, hjob⟩ := hbusy
    have htaken := (h.taken i).2 ⟨w, hjob⟩
    have hi : i < paths.length := by
      rw [← h.length]
      exact (List.getElem?_eq_some_iff.1 htaken).1
    exact ⟨_, Step.finish hjob (List.getElem?_eq_getElem hi) rfl⟩
  · unfold Finished at hc
    push Not at hc hbusy
    obtain ⟨f, hf, hnot⟩ := hc
    obtain ⟨i, hi⟩ := List.mem_iff_getElem?.1 hf
    have hidle : (c.workers 0).job = none := Option.eq_none_iff_forall_ne_some.2 (hbusy 0)
    cases f with
    | waiting => exact ⟨_, Step.take hidle hi (Or.inl rfl)⟩
    | taken =>
      obtain ⟨w, hw⟩ := (h.taken i).1 hi
      exact absurd hw (hbusy w i)
    | done r => exact absurd rfl (hnot r)

theorem left_set {fs : List Progress} {i : Nat} {f : Progress} (h : fs[i]? = some f)
    (g : Progress) :
    ((fs.set i g).map Progress.left).sum + f.left = (fs.map Progress.left).sum + g.left := by
  induction fs generalizing i with
  | nil => cases h
  | cons x fs ih =>
    cases i with
    | zero =>
      cases h
      simp only [List.set_cons_zero, List.map_cons, List.sum_cons]
      omega
    | succ i =>
      have hrest := ih (i := i) h
      simp only [List.set_cons_succ, List.map_cons, List.sum_cons]
      omega

/-- With every step the end is one step nearer. -/
theorem Sound.left_step (h : Sound s t paths c) (hstep : Step s t paths c c') :
    c'.left + 1 = c.left := by
  cases hstep with
  | take _ hwait _ =>
    have hset := left_set hwait .taken
    simp only [Progress.left] at hset
    simp only [left]
    omega
  | @finish w i _ r _ hjob _ _ =>
    have hset := left_set ((h.taken i).2 ⟨w, hjob⟩) (.done r)
    simp only [Progress.left] at hset
    simp only [left]
    omega

/-- The workers do not go on forever. -/
theorem not_forever {orders : Nat → List Rearrangement} (run : Nat → Crew)
    (hstart : run 0 = start s paths orders) :
    ¬ ∀ k, Step s t paths (run k) (run (k + 1)) := by
  intro hsteps
  have hsound : ∀ k, Sound s t paths (run k) := by
    intro k
    induction k with
    | zero => exact hstart ▸ sound_start s t paths orders
    | succ k ih => exact ih.step (hsteps k)
  have hleft : ∀ k, (run k).left + k = (run 0).left := by
    intro k
    induction k with
    | zero => rfl
    | succ k ih =>
      have hnear := (hsound k).left_step (hsteps k)
      omega
  have hpast := hleft ((run 0).left + 1)
  omega

/-- At the end there is one report for each file, in the order of the files, and it is one that a
new analyzer may give. -/
theorem Sound.reports_may (h : Sound s t paths c) (hc : c.Finished) :
    List.Forall₂ (s.MayReport t) paths c.reports := by
  have hfiles : c.files = c.reports.map .done := by
    rw [reports, List.map_filterMap]
    conv_lhs => rw [← List.filterMap_some (l := c.files)]
    refine List.filterMap_congr fun f hf => ?_
    obtain ⟨r, rfl⟩ := hc f hf
    rfl
  rw [List.forall₂_iff_get]
  refine ⟨by rw [← h.length, hfiles, List.length_map], fun i hi hi' => ?_⟩
  have hdone : c.files[i]? = some (.done c.reports[i]) := by
    rw [hfiles, List.getElem?_map, List.getElem?_eq_getElem hi', Option.map_some]
  obtain ⟨path, hpath, hmay⟩ := h.report i _ hdone
  obtain ⟨_, rfl⟩ := List.getElem?_eq_some_iff.1 hpath
  exact hmay

/-- Where all literals are settled there is one report for each file. -/
theorem reports_eq_of_settled {rs : List Report} (hrs : List.Forall₂ (s.MayReport t) paths rs)
    (h : ∀ path ∈ paths, (Call.file t path).Settled s.thresholds) :
    rs = paths.map (s.reportOf t) := by
  rw [← List.forall₂_eq_eq_eq, List.forall₂_map_right_iff]
  refine (((List.forall₂_and_left _ _).2 ⟨h, hrs⟩).imp ?_).flip
  rintro path r ⟨hsettled, os, rfl⟩
  exact Call.report_new_of_settled hsettled os (s.orders path)

/-- A worker with nothing to do can take a file that waits and come to any report that a new
analyzer may give. -/
theorem exists_reaches_done {i : Nat} {path : String} {r : Report}
    (hidle : (c.workers 0).job = none) (hwait : c.files[i]? = some .waiting)
    (hpath : paths[i]? = some path) (hr : s.MayReport t path r) :
    ∃ workers, (workers 0).job = none ∧ Reaches s t paths c ⟨workers, c.files.set i (.done r)⟩ := by
  obtain ⟨os, rfl⟩ := hr
  have hworker :=
    Function.update_self 0 (Worker.mk (Analyzer.new s.thresholds os) (some i)) c.workers
  have htake : Step s t paths c _ := Step.take hidle hwait (Or.inr ⟨os, rfl⟩)
  have hfinish : Step s t paths ⟨_, c.files.set i .taken⟩ _ :=
    Step.finish (congrArg Worker.job hworker) hpath
      (congrArg (fun w : Worker => w.analyzer.analyzeFile t path) hworker)
  rw [List.set_set] at hfinish
  refine ⟨_, ?_, ReflTransGen.head htake (ReflTransGen.single hfinish)⟩
  rw [Function.update_self]

/-- One worker that takes a new analyzer for each file can come to any reports that these may
give. -/
theorem exists_run {rest : List String} {rs : List Report}
    (hrs : List.Forall₂ (s.MayReport t) rest rs) {before : List String} {fs : List Progress}
    (hlength : fs.length = before.length) {workers : Nat → Worker}
    (hidle : (workers 0).job = none) :
    ∃ workers', Reaches s t (before ++ rest) ⟨workers, fs ++ rest.map fun _ => .waiting⟩
      ⟨workers', fs ++ rs.map .done⟩ := by
  induction hrs generalizing before fs workers with
  | nil => exact ⟨workers, ReflTransGen.refl⟩
  | @cons path r rest rs hr _ ih =>
    have hwait : (fs ++ (path :: rest).map fun _ => Progress.waiting)[fs.length]? =
        some .waiting := by
      simp
    have hpath : (before ++ path :: rest)[fs.length]? = some path := by
      simp [hlength]
    obtain ⟨workers', hidle', hfirst⟩ :=
      exists_reaches_done (c := ⟨workers, fs ++ (path :: rest).map fun _ => .waiting⟩) hidle
        hwait hpath hr
    obtain ⟨workers'', hrest⟩ :=
      @ih (before ++ [path]) (fs ++ [.done r]) (by simp [hlength]) workers' hidle'
    refine ⟨workers'', hfirst.trans ?_⟩
    simpa using hrest

/-- The workers may end with any reports that new analyzers may give. -/
theorem exists_finished_with {rs : List Report} (hrs : List.Forall₂ (s.MayReport t) paths rs) :
    ∃ orders c, Reaches s t paths (start s paths orders) c ∧ c.Finished ∧ c.reports = rs := by
  obtain ⟨workers, hreach⟩ :=
    @exists_run s t paths rs hrs [] [] rfl (start s paths fun _ => []).workers rfl
  refine ⟨fun _ => [], _, hreach, ?_, ?_⟩
  · intro f hf
    obtain ⟨r, -, rfl⟩ := List.mem_map.1 hf
    exact ⟨r, rfl⟩
  · rw [reports, List.nil_append, List.filterMap_map]
    exact List.filterMap_some

end

end Crew

/-! ### Results of scans -/

namespace ScanSettings

/-- A scan may have the result: of a file the report of a new analyzer, of a directory the reports
of its Python files once the workers are finished, and otherwise a failure. -/
inductive MayScan (s : ScanSettings) (t : FileTree) (target : String) :
    Except Failure ScanReport → Prop
  | file {r : Report} : t.isFile target = true → s.MayReport t target r →
      MayScan s t target (.ok ⟨[r]⟩)
  | directory {orders : Nat → List Rearrangement} {c : Crew} :
      t.isFile target = false → t.isDirectory target = true →
      Crew.Reaches s t (t.discover target (excludes s.exclude))
        (Crew.start s (t.discover target (excludes s.exclude)) orders) c →
      c.Finished → MayScan s t target (.ok ⟨c.reports⟩)
  | missing : t.isFile target = false → t.isDirectory target = false →
      MayScan s t target (.error (.noTarget target))

/-- The files that a scan analyzes, in order. -/
def targets (s : ScanSettings) (t : FileTree) (target : String) : List String :=
  if t.isFile target then [target]
  else if t.isDirectory target then t.discover target (excludes s.exclude)
  else []

/-- The result holds one report for each file, each one that a new analyzer may give. -/
def Fresh (s : ScanSettings) (t : FileTree) (target : String) (result : Except Failure ScanReport) :
    Prop :=
  if t.isFile target || t.isDirectory target then
    ∃ rs, List.Forall₂ (s.MayReport t) (s.targets t target) rs ∧ result = .ok ⟨rs⟩
  else result = .error (.noTarget target)

variable {s : ScanSettings} {t : FileTree} {target : String} {result : Except Failure ScanReport}

/-- Whatever the workers do, a scan may have the results that new analyzers may give. -/
theorem mayScan_iff : s.MayScan t target result ↔ s.Fresh t target result := by
  unfold Fresh targets
  constructor
  · intro h
    cases h with
    | @file r hfile hr =>
      rw [hfile]
      exact ⟨[r], .cons hr .nil, rfl⟩
    | directory hfile hdirectory hreach hc =>
      rw [hfile, hdirectory]
      exact ⟨_, (Crew.sound_of_reaches hreach).reports_may hc, rfl⟩
    | missing hfile hdirectory =>
      rw [hfile, hdirectory]
      rfl
  · intro h
    cases hfile : t.isFile target with
    | true =>
      rw [hfile] at h
      obtain ⟨_, hrs, rfl⟩ := h
      cases hrs with
      | cons hr hnil =>
        cases hnil
        exact .file hfile hr
    | false =>
      cases hdirectory : t.isDirectory target with
      | true =>
        rw [hfile, hdirectory] at h
        obtain ⟨rs, hrs, rfl⟩ := h
        obtain ⟨orders, c, hreach, hc, rfl⟩ := Crew.exists_finished_with hrs
        exact .directory hfile hdirectory hreach hc
      | false =>
        rw [hfile, hdirectory] at h
        rw [show result = _ from h]
        exact .missing hfile hdirectory

theorem fresh_scan (s : ScanSettings) (t : FileTree) (target : String) :
    s.Fresh t target (s.scan t target) := by
  have hmay : ∀ paths, List.Forall₂ (s.MayReport t) paths (paths.map (s.reportOf t)) := by
    intro paths
    rw [List.forall₂_map_right_iff]
    exact List.forall₂_same.2 fun path _ => ⟨s.orders path, rfl⟩
  unfold Fresh targets scan
  cases t.isFile target with
  | true => exact ⟨_, hmay [target], rfl⟩
  | false =>
    cases t.isDirectory target with
    | true => exact ⟨_, hmay _, rfl⟩
    | false => rfl

/-- Where all literals are settled a scan has one result. -/
theorem fresh_iff_of_settled
    (h : ∀ path ∈ s.targets t target, (Call.file t path).Settled s.thresholds) :
    s.Fresh t target result ↔ result = s.scan t target := by
  constructor
  · intro hfresh
    have hscan := s.fresh_scan t target
    unfold Fresh at hfresh hscan
    split_ifs at hfresh hscan with hthere
    · obtain ⟨rs, hrs, rfl⟩ := hfresh
      obtain ⟨rs', hrs', heq⟩ := hscan
      rw [heq, Crew.reports_eq_of_settled hrs h, Crew.reports_eq_of_settled hrs' h]
    · rw [hfresh, hscan]
  · rintro rfl
    exact s.fresh_scan t target

end ScanSettings

/-- A source with a literal that is too short to be reported. -/
def shortLiteral : Call := .source "s = 'abc'\n" "a.py"

end PythonAudit
