import PythonAudit.Proofs.ExitCode
import PythonAudit.Proofs.Placement
import PythonAudit.Proofs.ReportText

/-!
# What runs do to files

* `ScanRequest.Stops` lists what stops a scan before anything is shown, and `ScanRequest.Effect`
  says what a scan prints and writes when it stops and when it does not;
* `Invocation.CreationEffect` says the same of a run that makes a configuration file;
* `Run.effect` puts the commands together, `Run.keeps` is what follows for any run, and `treeAfter`
  is the tree after some runs, each of which sees what those before it wrote;
* `runs_write_only_outputs` says what follows for every sequence of runs.
-/

namespace PythonAudit

/-! ### Scans -/

namespace ScanRequest

/-- A scan stops before anything is shown: the configuration that is asked for cannot be loaded, the
format or a severity is unknown, there is no target, or it is a directory without files to
analyze. -/
inductive Stops (r : ScanRequest) (i : Invocation) (s : Surroundings) (t : FileTree) : Prop
  | config {path : String} : i.config = some path →
      (∀ c, Config.load t path ≠ .ok c) → Stops r i s t
  | format : OutputFormat.ofName? i.format = none → Stops r i s t
  | minSeverity {c : Config} : i.UsesConfig s t c →
      Severity.ofName? (r.minSeverity.getD c.minSeverity) = none →
      Stops r i s t
  | failOn {c : Config} : i.UsesConfig s t c →
      Severity.ofName? (r.failOn.getD c.failOn) = none → Stops r i s t
  | target : t.isFile r.target = false → t.isDirectory r.target = false → Stops r i s t
  | sources {c : Config} : i.UsesConfig s t c → t.isDirectory r.target = true →
      r.sources c t = [] → Stops r i s t

variable {r : ScanRequest} {i : Invocation} {s : Surroundings} {c : Config} {t : FileTree}
  {scanned : Scanned}

theorem Stops.of_configuration {f : Failure} (h : i.configuration s t = .error f) :
    r.Stops i s t := by
  unfold Invocation.configuration at h
  split at h
  next path hpath => exact .config hpath fun c hc => by rw [hc] at h; cases h
  next => cases h

/-- A scan that cannot be made stops. -/
theorem Stops.of_perform {f : Failure} (hc : i.UsesConfig s t c)
    (h : r.perform i c s t = .error f) : r.Stops i s t := by
  by_contra hgo
  have hformat : OutputFormat.ofName? i.format ≠ none := fun hnone => hgo (.format hnone)
  have hleast : Severity.ofName? (r.minSeverity.getD c.minSeverity) ≠ none :=
    fun hnone => hgo (.minSeverity hc hnone)
  have hworst : Severity.ofName? (r.failOn.getD c.failOn) ≠ none :=
    fun hnone => hgo (.failOn hc hnone)
  have htarget : t.isFile r.target = true ∨ t.isDirectory r.target = true := by
    by_contra hnone
    rw [not_or, Bool.not_eq_true, Bool.not_eq_true] at hnone
    exact hgo (.target hnone.1 hnone.2)
  obtain ⟨format, hformat⟩ := Option.ne_none_iff_exists'.1 hformat
  obtain ⟨least, hleast⟩ := Option.ne_none_iff_exists'.1 hleast
  obtain ⟨worst, hworst⟩ := Option.ne_none_iff_exists'.1 hworst
  have hok : r.perform i c s t =
      .ok ⟨format, least, worst, ⟨(r.sources c t).map ((r.settings c s).reportOf t)⟩⟩ :=
    perform_eq_ok_iff.2 ⟨hformat, hleast, hworst, htarget, rfl⟩
  rw [h] at hok
  cases hok

theorem isEmpty_of_perform (h : r.perform i c s t = .ok scanned) :
    (t.isDirectory r.target && scanned.report.isEmpty) = true ↔
      t.isDirectory r.target = true ∧ r.sources c t = [] := by
  obtain ⟨-, -, -, -, hreport⟩ := perform_eq_ok_iff.1 h
  rw [hreport, Bool.and_eq_true, isEmpty_map_sources]

/-- When a scan is made and does not stop, nothing of what stops one is the case. -/
theorem not_stops_of_perform (hc : i.UsesConfig s t c) (h : r.perform i c s t = .ok scanned)
    (hsources : ¬(t.isDirectory r.target && scanned.report.isEmpty) = true) : ¬ r.Stops i s t := by
  have hunique : ∀ {c'}, i.UsesConfig s t c' → c' = c := fun hc' =>
    Except.ok.inj
      ((Invocation.configuration_eq_ok_iff.2 hc').symm.trans
        (Invocation.configuration_eq_ok_iff.2 hc))
  obtain ⟨hformat, hleast, hworst, htarget, -⟩ := perform_eq_ok_iff.1 h
  rw [isEmpty_of_perform h, not_and] at hsources
  intro hstops
  cases hstops with
  | @config path hpath hload =>
    have hok := Invocation.configuration_eq_ok_iff.2 hc
    rw [Invocation.configuration, hpath] at hok
    exact hload c hok
  | format hnone => rw [hformat] at hnone; cases hnone
  | minSeverity hc' hnone => rw [hunique hc', hleast] at hnone; cases hnone
  | failOn hc' hnone => rw [hunique hc', hworst] at hnone; cases hnone
  | target hfile hdirectory => simp [hfile, hdirectory] at htarget
  | sources hc' hdirectory hnone => exact hsources hdirectory (hunique hc' ▸ hnone)

/-- What a scan prints and does to files. A scan that stops prints nothing and changes nothing.
Otherwise the report is shown in the format that is asked for, and nothing is changed but the
output: when it can be written it holds the same report in JSON, which is what is shown when the
format is JSON. -/
structure Effect (r : ScanRequest) (i : Invocation) (s : Surroundings) (t : FileTree)
    (o : Outcome) : Prop where
  stopped : r.Stops i s t → o.tree = t ∧ o.out = ""
  shown : ¬ r.Stops i s t → ∃ c scanned, i.UsesConfig s t c ∧ r.perform i c s t = .ok scanned ∧
    o.out = scanned.format.render i.verbose (i.colour s) scanned.shown ∧
    (r.output = none → o.tree = t) ∧
    ∀ path, r.output = some path →
      (¬ t.Writable path → o.tree = t) ∧
      (t.Writable path → t.Stores path (Render.json scanned.shown).toUTF8 o.tree ∧
        (scanned.format = .json → o.tree.read path = .ok o.out.toUTF8))

theorem out_show (colour : Bool) :
    (r.show i colour t scanned).out = scanned.format.render i.verbose colour scanned.shown := by
  unfold ScanRequest.show
  cases r.output with
  | none => rfl
  | some path =>
    dsimp only
    cases t.write path (OutputFormat.json.render i.verbose colour scanned.shown).toUTF8 <;> rfl

theorem tree_show_of_none (colour : Bool) (h : r.output = none) :
    (r.show i colour t scanned).tree = t := by
  unfold ScanRequest.show
  rw [h]

theorem tree_show_of_write {path : String} (colour : Bool) (h : r.output = some path)
    {t' : FileTree} (hwrite : t.write path (Render.json scanned.shown).toUTF8 = .ok t') :
    (r.show i colour t scanned).tree = t' := by
  unfold ScanRequest.show
  simp only [h, OutputFormat.render_json, hwrite]

theorem tree_show_of_not_writable {path : String} (colour : Bool) (h : r.output = some path)
    (hpath : ¬ t.Writable path) : (r.show i colour t scanned).tree = t := by
  unfold ScanRequest.show
  simp only [h]
  cases hwrite : t.write path (OutputFormat.json.render i.verbose colour scanned.shown).toUTF8 with
  | error p => rfl
  | ok written => exact absurd ⟨_, written, hwrite⟩ hpath

theorem effect_run (hr : i.command = .scan r) : r.Effect i s t (i.run s t) := by
  unfold Invocation.run
  rw [hr]
  cases hc : i.configuration s t with
  | error f => exact ⟨fun _ => ⟨rfl, rfl⟩, fun hgo => absurd (.of_configuration hc) hgo⟩
  | ok c =>
    have huses := Invocation.configuration_eq_ok_iff.1 hc
    dsimp only
    unfold ScanRequest.run
    cases hs : r.perform i c s t with
    | error f => exact ⟨fun _ => ⟨rfl, rfl⟩, fun hgo => absurd (.of_perform huses hs) hgo⟩
    | ok scanned =>
      dsimp only
      split_ifs with hempty
      · obtain ⟨hdirectory, hnone⟩ := (isEmpty_of_perform hs).1 hempty
        exact ⟨fun _ => ⟨rfl, rfl⟩, fun hgo => absurd (.sources huses hdirectory hnone) hgo⟩
      · refine ⟨fun hstops => absurd hstops (not_stops_of_perform huses hs hempty), fun _ => ?_⟩
        refine ⟨c, scanned, huses, hs, out_show _, tree_show_of_none _, fun path hpath => ?_⟩
        refine ⟨tree_show_of_not_writable _ hpath, fun hwritable => ?_⟩
        obtain ⟨t', hwrite⟩ :=
          (t.exists_write_iff path (Render.json scanned.shown).toUTF8).2 hwritable
        rw [tree_show_of_write _ hpath hwrite]
        have hstores := FileTree.stores_of_write hwrite
        refine ⟨hstores, fun hjson => ?_⟩
        rw [hstores.read, out_show, hjson, OutputFormat.render_json]

end ScanRequest

/-! ### New configuration files -/

/-- What making a configuration file does to files. All that exists is kept, and the file is made
where its path leads nowhere. -/
structure Invocation.CreationEffect (i : Invocation) (s : Surroundings) (path : String)
    (t t' : FileTree) : Prop where
  kept : t.KeptIn t'
  refused : t.pathExists path = true → t' = t
  created {c : Config} : i.UsesConfig s t c → t.pathExists path = false → t.Writable path →
    t.Stores path Config.initialText.toUTF8 t'

theorem Invocation.creationEffect_run {i : Invocation} {path : String} (hi : i.command = .init path)
    (s : Surroundings) (t : FileTree) : i.CreationEffect s path t (i.run s t).tree := by
  unfold Invocation.run
  rw [hi]
  cases hc : i.configuration s t with
  | error f =>
    refine ⟨.refl t, fun _ => rfl, fun huses => ?_⟩
    rw [Invocation.configuration_eq_ok_iff.2 huses] at hc
    cases hc
  | ok c =>
    dsimp only
    unfold runInit
    split_ifs with hexists
    · exact ⟨.refl t, fun _ => rfl, fun _ hnowhere => by rw [hexists] at hnowhere; cases hnowhere⟩
    · have hnowhere : t.pathExists path = false := by simpa using hexists
      cases hwrite : t.write path Config.initialText.toUTF8 with
      | error p =>
        refine ⟨.refl t, fun _ => rfl, fun _ _ hwritable => ?_⟩
        obtain ⟨t', hwrite'⟩ := (t.exists_write_iff path Config.initialText.toUTF8).2 hwritable
        rw [hwrite'] at hwrite
        cases hwrite
      | ok t' =>
        exact ⟨FileTree.keptIn_of_write hwrite hnowhere, fun h => absurd h hexists,
          fun _ _ _ => FileTree.stores_of_write hwrite⟩

/-! ### Sequences of runs -/

/-- A run of the program. -/
structure Run where
  surroundings : Surroundings := {}
  arguments : List String

namespace Run

/-- What a run leaves. -/
def outcome (run : Run) (t : FileTree) : Outcome := runArguments run.surroundings t run.arguments

/-- What a run does, for each command. -/
structure Effect (run : Run) (t : FileTree) : Prop where
  misused {e : Command.UsageError} : Invocation.ofArguments run.arguments = .error e →
    (run.outcome t).tree = t
  listing {i : Invocation} {json : Bool} : Invocation.ofArguments run.arguments = .ok i →
    i.command = .detectors json → (run.outcome t).tree = t
  creation {i : Invocation} {path : String} : Invocation.ofArguments run.arguments = .ok i →
    i.command = .init path → i.CreationEffect run.surroundings path t (run.outcome t).tree
  scan {i : Invocation} {r : ScanRequest} : Invocation.ofArguments run.arguments = .ok i →
    i.command = .scan r → r.Effect i run.surroundings t (run.outcome t)

variable (run : Run) (t : FileTree)

theorem outcome_of_ok {i : Invocation} (h : Invocation.ofArguments run.arguments = .ok i) :
    run.outcome t = i.run run.surroundings t := by
  rw [outcome, runArguments, h]

theorem effect : run.Effect t where
  misused h := by rw [outcome, runArguments, h]
  listing {i json} h hi := by
    rw [run.outcome_of_ok t h, Invocation.run, hi]
    cases i.configuration run.surroundings t <;> rfl
  creation h hi := by
    rw [run.outcome_of_ok t h]
    exact Invocation.creationEffect_run hi _ t
  scan h hi := by
    rw [run.outcome_of_ok t h]
    exact ScanRequest.effect_run hi

/-- The run is a scan with an output, and the path of the output leads to the place after it. -/
def Outputs (place : Place) : Prop :=
  ∃ i r path, Invocation.ofArguments run.arguments = .ok i ∧ i.command = .scan r ∧
    r.output = some path ∧
    (run.outcome t).tree.resolve path = .ok place

/-- Paths lead where they led, and all places but the one of the output keep their entries. -/
structure Keeps : Prop where
  paths {path : String} {place : Place} : t.resolve path = .ok place →
    (run.outcome t).tree.resolve path = .ok place
  entries {place : Place} {e : Entry} : t.get? place = some e →
    (run.outcome t).tree.get? place = some e ∨ run.Outputs t place

variable {run t}

theorem keeps_of_tree_eq (h : (run.outcome t).tree = t) : run.Keeps t where
  paths hpath := by rwa [h]
  entries he := Or.inl (by rwa [h])

variable (run t)

/-- What a run keeps, whatever its command is. -/
theorem keeps : run.Keeps t := by
  have heffect := run.effect t
  cases harguments : Invocation.ofArguments run.arguments with
  | error e => exact keeps_of_tree_eq (heffect.misused harguments)
  | ok i =>
    cases hcommand : i.command with
    | detectors json => exact keeps_of_tree_eq (heffect.listing harguments hcommand)
    | init path =>
      have hkept := (heffect.creation harguments hcommand).kept
      exact ⟨hkept.paths, fun he => Or.inl (hkept.entries he)⟩
    | scan r =>
      have hscan := heffect.scan harguments hcommand
      by_cases hstops : r.Stops i run.surroundings t
      · exact keeps_of_tree_eq (hscan.stopped hstops).1
      obtain ⟨c, scanned, -, -, -, hnone, hsome⟩ := hscan.shown hstops
      cases houtput : r.output with
      | none => exact keeps_of_tree_eq (hnone houtput)
      | some path =>
        obtain ⟨hunwritten, hwritten⟩ := hsome path houtput
        by_cases hwritable : t.Writable path
        · have hstores := (hwritten hwritable).1
          refine ⟨hstores.paths, fun {place e} he => ?_⟩
          by_cases hplace : (run.outcome t).tree.resolve path = .ok place
          · exact Or.inr ⟨i, r, path, harguments, hcommand, houtput, hplace⟩
          · exact Or.inl ((hstores.entries hplace).trans he)
        · exact keeps_of_tree_eq (hunwritten hwritable)

end Run

/-- The tree after some runs. -/
def treeAfter (t : FileTree) : List Run → FileTree
  | [] => t
  | run :: rest => treeAfter (run.outcome t).tree rest

theorem resolve_treeAfter {t : FileTree} {path : String} {place : Place} (runs : List Run)
    (h : t.resolve path = .ok place) : (treeAfter t runs).resolve path = .ok place := by
  induction runs generalizing t with
  | nil => exact h
  | cons run rest ih => exact ih ((run.keeps t).paths h)

theorem get?_treeAfter {t : FileTree} {place : Place} {e : Entry} (runs : List Run)
    (h : t.get? place = some e) :
    (treeAfter t runs).get? place = some e ∨
      ∃ before run after, runs = before ++ run :: after ∧
        run.Outputs (treeAfter t before) place := by
  induction runs generalizing t with
  | nil => exact Or.inl h
  | cons run rest ih =>
    rcases (run.keeps t).entries h with hkept | houtputs
    · rcases ih hkept with hkept' | ⟨before, later, after, rfl, houtputs⟩
      · exact Or.inl hkept'
      · exact Or.inr ⟨run :: before, later, after, rfl, houtputs⟩
    · exact Or.inr ⟨[], run, rest, rfl, houtputs⟩

/-- **Runs write nothing but their outputs.** A new configuration file and a listing change nothing
that exists, and a scan changes nothing but its output. -/
theorem runs_write_only_outputs (t : FileTree) (runs : List Run) :
    (∀ before run after, runs = before ++ run :: after → run.Effect (treeAfter t before)) ∧
      (∀ path place, t.resolve path = .ok place → (treeAfter t runs).resolve path = .ok place) ∧
      ∀ place e, t.get? place = some e →
        (treeAfter t runs).get? place = some e ∨
          ∃ before run after, runs = before ++ run :: after ∧
            run.Outputs (treeAfter t before) place :=
  ⟨fun before run _ _ => run.effect (treeAfter t before), fun _ _ => resolve_treeAfter runs,
    fun _ _ => get?_treeAfter runs⟩

/-- A configuration file where a file is. -/
def takenPlace : Run := { arguments := ["init", "a.py"] }

/-- A scan with an output. -/
def reportRequest : ScanRequest := { target := "a.py", output := some "r.json" }

/-- The scan with its report in JSON. -/
def reportInvocation : Invocation := { command := .scan reportRequest, format := "json" }

/-- The run that asks for it. -/
def reportedScan : Run :=
  { arguments := ["scan", "a.py", "--format", "json", "--output", "r.json"] }

/-- A scan in an unknown format that would write over its own source. -/
def stoppedScan : Run := { arguments := ["scan", "a.py", "--format", "xml", "--output", "a.py"] }

theorem writable_unclosedFile : unclosedFile.Writable "r.json" := by
  have hrefused : FileTree.refused? "r.json" = none := by
    simp only [FileTree.refused?, String.contains_char_eq]
    decide +kernel
  have hfree : unclosedFile.get? ["r.json"] = none := rfl
  have htarget : unclosedFile.target FileTree.mostLinks [] "r.json" = .ok ["r.json"] := by
    rw [FileTree.target, show FileTree.start [] "r.json" = ([], ["r.json"]) by decide +kernel]
    dsimp only
    rw [FileTree.destination]
    simp only [List.nil_append, hfree]
    decide +kernel
  refine ⟨ByteArray.empty, unclosedFile.put ["r.json"] (.file ByteArray.empty), ?_⟩
  rw [FileTree.write, hrefused, htarget]
  rfl

theorem not_stops_reportRequest : ¬ reportRequest.Stops reportInvocation {} unclosedFile := by
  obtain ⟨hthere, hnowhere⟩ := resolve_unclosedFile
  have hfile : unclosedFile.isFile "a.py" = true := by
    rw [FileTree.isFile, hthere]
    rfl
  have hdirectory : unclosedFile.isDirectory "a.py" = false := by
    rw [FileTree.isDirectory, hthere]
    rfl
  have huses : reportInvocation.UsesConfig {} unclosedFile {} := by
    rw [← Invocation.configuration_eq_ok_iff]
    simp [reportInvocation, Invocation.configuration, Config.loadFirst, Surroundings.configFiles,
      Config.load?, FileTree.isFile, hnowhere, Except.toOption]
  obtain ⟨scanned, hmade⟩ : ∃ scanned,
      reportRequest.perform reportInvocation {} {} unclosedFile = .ok scanned :=
    ⟨⟨.json, .low, .high, _⟩, ScanRequest.perform_eq_ok_iff.2 ⟨rfl, rfl, rfl, Or.inl hfile, rfl⟩⟩
  exact ScanRequest.not_stops_of_perform huses hmade (by simp [reportRequest, hdirectory])

/-- The file is not written over by a new configuration file, the report of the scan is written
beside it, and the scan that would write over it stops before. -/
theorem unclosedFile_after_runs :
    (treeAfter unclosedFile [takenPlace, reportedScan, stoppedScan]).resolve "a.py" = .ok ["a.py"] ∧
      (treeAfter unclosedFile [takenPlace, reportedScan, stoppedScan]).read "r.json" =
        .ok (reportedScan.outcome unclosedFile).out.toUTF8 ∧
      (stoppedScan.outcome (treeAfter unclosedFile [takenPlace, reportedScan])).out = "" := by
  have hinit : Invocation.ofArguments takenPlace.arguments = .ok { command := .init "a.py" } := rfl
  have hjson : Invocation.ofArguments reportedScan.arguments = .ok reportInvocation := rfl
  have hxml : Invocation.ofArguments stoppedScan.arguments =
      .ok { command := .scan { target := "a.py", output := some "a.py" }, format := "xml" } := rfl
  obtain ⟨heffect, hpaths, -⟩ :=
    runs_write_only_outputs unclosedFile [takenPlace, reportedScan, stoppedScan]
  obtain ⟨hthere, -⟩ := resolve_unclosedFile
  have htaken : treeAfter unclosedFile [takenPlace] = unclosedFile := by
    refine ((heffect [] takenPlace [reportedScan, stoppedScan] rfl).creation hinit rfl).refused ?_
    rw [treeAfter, FileTree.pathExists, hthere]
    rfl
  have hreported := (heffect [takenPlace] reportedScan [stoppedScan] rfl).scan hjson rfl
  have hstopped := (heffect [takenPlace, reportedScan] stoppedScan [] rfl).scan hxml rfl
  obtain ⟨hsame, hquiet⟩ := hstopped.stopped (.format rfl)
  refine ⟨hpaths "a.py" _ hthere, ?_, hquiet⟩
  have hafter : treeAfter unclosedFile [takenPlace, reportedScan, stoppedScan] =
      (reportedScan.outcome unclosedFile).tree :=
    calc treeAfter unclosedFile [takenPlace, reportedScan, stoppedScan]
      _ = treeAfter unclosedFile [takenPlace, reportedScan] := hsame
      _ = (reportedScan.outcome (treeAfter unclosedFile [takenPlace])).tree := rfl
      _ = (reportedScan.outcome unclosedFile).tree := by rw [htaken]
  rw [htaken] at hreported
  obtain ⟨c, scanned, -, hmade, -, -, hwritten⟩ := hreported.shown not_stops_reportRequest
  have hformat : scanned.format = .json :=
    Option.some.inj (ScanRequest.perform_eq_ok_iff.1 hmade).1.symm
  rw [hafter]
  exact ((hwritten "r.json" rfl).2 writable_unclosedFile).2 hformat

end PythonAudit
