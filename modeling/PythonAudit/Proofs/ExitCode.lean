import PythonAudit.Command.Run
import PythonAudit.Proofs.SeverityFilter

/-!
# When a scan passes

A run ends with code 0 or 1, and whoever runs it looks at the code and at nothing else.

* `Invocation.UsesConfig` says which configuration counts, and `configuration_eq_ok_iff` that it is
  the one used;
* `Scanned.fails_eq_false_iff` joins the two severities of a scan: findings are dropped below the
  one and counted from the other on, so they count from the worse of both on;
* `ScanRequest.Passes` collects everything that has to go well, and `code_run_eq_zero_iff` says that
  the code is 0 exactly then;
* `scan_exit_code` says it of the program with its arguments.
-/

namespace PythonAudit

/-! ### Configurations -/

/-- The file is there and holds a configuration. -/
def Config.Usable (t : FileTree) (path : String) (c : Config) : Prop :=
  t.isFile path = true ∧ Config.load t path = .ok c

/-- The configuration that counts: the one that is asked for, or else the first of the usual files
that can be used, or else the usual settings. -/
inductive Invocation.UsesConfig (i : Invocation) (s : Surroundings) (t : FileTree) : Config → Prop
  | asked {path : String} {c : Config} : i.config = some path → Config.load t path = .ok c →
      UsesConfig i s t c
  | found {before after : List String} {path : String} {c : Config} : i.config = none →
      s.configFiles = before ++ path :: after → (∀ p ∈ before, ∀ c', ¬ Config.Usable t p c') →
      Config.Usable t path c → UsesConfig i s t c
  | usual : i.config = none → (∀ p ∈ s.configFiles, ∀ c', ¬ Config.Usable t p c') →
      UsesConfig i s t {}

theorem Config.load?_eq_some_iff {t : FileTree} {path : String} {c : Config} :
    Config.load? t path = some c ↔ Config.Usable t path c := by
  unfold Config.load? Config.Usable
  split_ifs with hfile
  · cases Config.load t path <;> simp [hfile, Except.toOption]
  · simp [hfile]

theorem Config.load?_eq_none_iff {t : FileTree} {path : String} :
    Config.load? t path = none ↔ ∀ c, ¬ Config.Usable t path c := by
  rw [Option.eq_none_iff_forall_ne_some]
  exact forall_congr' fun c => not_congr Config.load?_eq_some_iff

/-- The configuration of a run is the one that counts. -/
theorem Invocation.configuration_eq_ok_iff {i : Invocation} {s : Surroundings} {t : FileTree}
    {c : Config} :
    i.configuration s t = .ok c ↔ i.UsesConfig s t c := by
  unfold Invocation.configuration
  constructor
  · intro h
    cases hc : i.config with
    | some path =>
      rw [hc] at h
      exact UsesConfig.asked hc h
    | none =>
      rw [hc] at h
      obtain rfl := Except.ok.inj h
      rw [Config.loadFirst]
      cases hfirst : s.configFiles.findSome? (Config.load? t) with
      | none =>
        rw [List.findSome?_eq_none_iff] at hfirst
        exact UsesConfig.usual hc fun p hp => Config.load?_eq_none_iff.1 (hfirst p hp)
      | some c =>
        obtain ⟨before, path, after, hfiles, hpath, hbefore⟩ := List.findSome?_eq_some_iff.1 hfirst
        exact UsesConfig.found hc hfiles (fun p hp => Config.load?_eq_none_iff.1 (hbefore p hp))
          (Config.load?_eq_some_iff.1 hpath)
  · intro h
    cases h with
    | asked hc hload => rw [hc]; exact hload
    | found hc hfiles hbefore hpath =>
      have hfirst : s.configFiles.findSome? (Config.load? t) = some c :=
        List.findSome?_eq_some_iff.2 ⟨_, _, _, hfiles, Config.load?_eq_some_iff.2 hpath,
          fun p hp => Config.load?_eq_none_iff.2 (hbefore p hp)⟩
      rw [hc]
      simp only [Config.loadFirst, hfirst, Option.getD_some]
    | usual hc hnone =>
      have hfirst : s.configFiles.findSome? (Config.load? t) = none :=
        List.findSome?_eq_none_iff.2 fun p hp => Config.load?_eq_none_iff.2 (hnone p hp)
      rw [hc]
      simp only [Config.loadFirst, hfirst, Option.getD_none]

/-! ### Severities -/

/-- A scan does not fail when all its findings, shown or not, are below the worse one of its two
severities. -/
theorem Scanned.fails_eq_false_iff (s : Scanned) :
    s.fails = false ↔
      ∀ q ∈ s.report.reports, ∀ f ∈ q.findings,
        f.severity.rank < max s.minSeverity.rank s.failOn.rank := by
  rw [← Bool.not_eq_true, Scanned.fails, ScanReport.any_maxSeverity?_iff, Scanned.shown,
    ScanReport.filterMin]
  simp only [List.mem_map, exists_exists_and_eq_and, Report.mem_retain_iff]
  constructor
  · intro h q hq f hf
    by_contra hle
    rw [not_lt, max_le_iff] at hle
    exact h ⟨q, hq, f, ⟨hf, hle.1⟩, hle.2⟩
  · rintro h ⟨q, hq, f, ⟨hf, hmin⟩, hfail⟩
    exact absurd (h q hq f hf) (not_lt.2 (max_le hmin hfail))

/-! ### Scans -/

/-- A file can be written there. -/
def FileTree.Writable (t : FileTree) (path : String) : Prop :=
  ∃ content written, t.write path content = .ok written

/-- Whether a file can be written does not depend on what is written. -/
theorem FileTree.exists_write_iff (t : FileTree) (path : String) (content : ByteArray) :
    (∃ written, t.write path content = .ok written) ↔ t.Writable path := by
  refine ⟨fun ⟨written, h⟩ => ⟨content, written, h⟩, ?_⟩
  rintro ⟨other, written, h⟩
  unfold FileTree.write at h ⊢
  cases hr : FileTree.refused? path with
  | some p => rw [hr] at h; cases h
  | none =>
    rw [hr] at h
    cases hplace : t.target FileTree.mostLinks [] path with
    | error p => rw [hplace] at h; cases h
    | ok place => exact ⟨_, rfl⟩

namespace ScanRequest

/-- The files that a scan analyzes. -/
def sources (r : ScanRequest) (c : Config) (t : FileTree) : List String :=
  if t.isFile r.target then [r.target]
  else t.discover r.target (excludes (addPatterns c.exclude r.exclude))

/-- Everything goes well with a configuration, and no finding of the whole scan is as bad as the
worse one of the two severities. -/
structure PassesWith (r : ScanRequest) (i : Invocation) (s : Surroundings) (t : FileTree)
    (c : Config) (least worst : Severity) : Prop where
  format : ∃ f, OutputFormat.ofName? i.format = some f
  minSeverity : Severity.ofName? (r.minSeverity.getD c.minSeverity) = some least
  failOn : Severity.ofName? (r.failOn.getD c.failOn) = some worst
  target : t.isFile r.target = true ∨ t.isDirectory r.target = true
  sources : t.isDirectory r.target = true → r.sources c t ≠ []
  output : ∀ path, r.output = some path → t.Writable path
  findings : ∀ source ∈ r.sources c t, ∀ f ∈ ((r.settings c s).reportOf t source).findings,
    f.severity.rank < max least.rank worst.rank

/-- A scan passes: a configuration counts, and everything goes well with it. -/
def Passes (r : ScanRequest) (i : Invocation) (s : Surroundings) (t : FileTree) : Prop :=
  ∃ c least worst, i.UsesConfig s t c ∧ r.PassesWith i s t c least worst

end ScanRequest

theorem bind_eq_ok_iff {ε α β : Type} {x : Except ε α} {k : α → Except ε β} {b : β} :
    (x >>= k) = .ok b ↔ ∃ a, x = .ok a ∧ k a = .ok b := by
  cases x <;> simp [bind, Except.bind]

theorem Severity.named_eq_ok_iff {name : String} {s : Severity} :
    Severity.named name = .ok s ↔ Severity.ofName? name = some s := by
  unfold Severity.named
  cases Severity.ofName? name <;> simp

theorem OutputFormat.named_eq_ok_iff {name : String} {f : OutputFormat} :
    OutputFormat.named name = .ok f ↔ OutputFormat.ofName? name = some f := by
  unfold OutputFormat.named
  cases OutputFormat.ofName? name <;> simp

namespace ScanRequest

variable {r : ScanRequest} {i : Invocation} {c : Config} {s : Surroundings} {t : FileTree}

theorem scan_eq_ok_iff {q : ScanReport} :
    (r.settings c s).scan t r.target = .ok q ↔
      (t.isFile r.target = true ∨ t.isDirectory r.target = true) ∧
        q = ⟨(r.sources c t).map ((r.settings c s).reportOf t)⟩ := by
  unfold ScanSettings.scan sources
  by_cases hfile : t.isFile r.target = true
  · rw [if_pos hfile, if_pos hfile, Except.ok.injEq, and_iff_right (Or.inl hfile)]
    exact eq_comm
  by_cases hdirectory : t.isDirectory r.target = true
  · rw [if_neg hfile, if_pos hdirectory, if_neg hfile, Except.ok.injEq,
      and_iff_right (Or.inr hdirectory)]
    exact eq_comm
  · simp [hfile, hdirectory]

/-- A scan is made when the format and the severities are known and the target is there. -/
theorem perform_eq_ok_iff {scanned : Scanned} :
    r.perform i c s t = .ok scanned ↔
      OutputFormat.ofName? i.format = some scanned.format ∧
        Severity.ofName? (r.minSeverity.getD c.minSeverity) = some scanned.minSeverity ∧
        Severity.ofName? (r.failOn.getD c.failOn) = some scanned.failOn ∧
        (t.isFile r.target = true ∨ t.isDirectory r.target = true) ∧
        scanned.report = ⟨(r.sources c t).map ((r.settings c s).reportOf t)⟩ := by
  rw [← OutputFormat.named_eq_ok_iff, ← Severity.named_eq_ok_iff, ← Severity.named_eq_ok_iff,
    ← scan_eq_ok_iff]
  unfold perform
  simp only [bind_eq_ok_iff]
  constructor
  · rintro ⟨format, hformat, least, hleast, worst, hworst, report, hreport, hs⟩
    obtain rfl := Except.ok.inj hs
    exact ⟨hformat, hleast, hworst, hreport⟩
  · rintro ⟨hformat, hleast, hworst, hreport⟩
    exact ⟨_, hformat, _, hleast, _, hworst, _, hreport, rfl⟩

/-- Showing a scan ends well when the output can be written and the scan does not fail. -/
theorem code_show_eq_zero_iff (colour : Bool) (scanned : Scanned) :
    (r.show i colour t scanned).code = 0 ↔
      (∀ path, r.output = some path → t.Writable path) ∧ scanned.fails = false := by
  have hcode : (if scanned.fails then 1 else 0) = 0 ↔ scanned.fails = false := by
    cases scanned.fails <;> simp
  unfold ScanRequest.show
  generalize (OutputFormat.json.render i.verbose colour scanned.shown).toUTF8 = content
  cases r.output with
  | none => simp [hcode]
  | some path =>
    have hwritable : (∀ p, some path = some p → t.Writable p) ↔
        ∃ written, t.write path content = .ok written := by
      rw [t.exists_write_iff]
      simp
    rw [hwritable]
    cases hw : t.write path content with
    | error p => simp [hw, Outcome.failed]
    | ok written => simp [hw, hcode]

theorem isEmpty_map_sources (f : String → Report) :
    (⟨(r.sources c t).map f⟩ : ScanReport).isEmpty = true ↔ r.sources c t = [] := by
  rw [ScanReport.isEmpty, List.isEmpty_iff, List.map_eq_nil_iff]

/-- A scan ends with code 0 exactly when everything goes well. -/
theorem code_run_eq_zero_iff :
    (r.run i c s t).code = 0 ↔ ∃ least worst, r.PassesWith i s t c least worst := by
  unfold ScanRequest.run
  constructor
  · intro h
    cases hs : r.perform i c s t with
    | error f =>
      rw [hs] at h
      cases h
    | ok scanned =>
      obtain ⟨hformat, hleast, hworst, htarget, hreport⟩ := perform_eq_ok_iff.1 hs
      simp only [hs] at h
      split_ifs at h with hempty
      rw [hreport, Bool.and_eq_true, isEmpty_map_sources, not_and] at hempty
      obtain ⟨houtput, hfails⟩ := (code_show_eq_zero_iff _ scanned).1 h
      refine ⟨scanned.minSeverity, scanned.failOn, ⟨_, hformat⟩, hleast, hworst, htarget,
        hempty, houtput, ?_⟩
      rw [scanned.fails_eq_false_iff, hreport, List.forall_mem_map] at hfails
      exact hfails
  · rintro ⟨least, worst, h⟩
    obtain ⟨format, hformat⟩ := h.format
    have hs : r.perform i c s t =
        .ok ⟨format, least, worst, ⟨(r.sources c t).map ((r.settings c s).reportOf t)⟩⟩ :=
      perform_eq_ok_iff.2 ⟨hformat, h.minSeverity, h.failOn, h.target, rfl⟩
    simp only [hs]
    rw [if_neg, code_show_eq_zero_iff, Scanned.fails_eq_false_iff, List.forall_mem_map]
    · exact ⟨h.output, h.findings⟩
    · rw [Bool.and_eq_true, isEmpty_map_sources, not_and]
      exact h.sources

theorem code_show_le_one (colour : Bool) (scanned : Scanned) :
    (r.show i colour t scanned).code ≤ 1 := by
  have hcode : (if scanned.fails then 1 else 0) ≤ 1 := by
    cases scanned.fails <;> simp
  unfold ScanRequest.show
  generalize (OutputFormat.json.render i.verbose colour scanned.shown).toUTF8 = content
  cases r.output with
  | none => exact hcode
  | some path =>
    cases hw : t.write path content with
    | error p => simp [hw, Outcome.failed]
    | ok written => simpa [hw] using hcode

/-- No other code than 0 and 1 comes out of a scan. -/
theorem code_run_le_one : (r.run i c s t).code ≤ 1 := by
  unfold ScanRequest.run
  cases r.perform i c s t with
  | error f => exact le_rfl
  | ok scanned =>
    dsimp only
    split_ifs
    · exact le_rfl
    · exact code_show_le_one _ scanned

end ScanRequest

/-- **A scan exits with 0 exactly when it passes**, and with 1 otherwise. -/
theorem scan_exit_code {arguments : List String} {i : Invocation} {r : ScanRequest}
    (hi : Invocation.ofArguments arguments = .ok i) (hr : i.command = .scan r) (s : Surroundings)
    (t : FileTree) :
    (r.Passes i s t → (runArguments s t arguments).code = 0) ∧
      (¬ r.Passes i s t → (runArguments s t arguments).code = 1) := by
  have hrun : runArguments s t arguments = i.run s t := by
    rw [runArguments, hi]
  rw [hrun, Invocation.run, hr]
  cases hc : i.configuration s t with
  | error f =>
    have hnot : ¬ r.Passes i s t := by
      rintro ⟨c, least, worst, huses, -⟩
      rw [Invocation.configuration_eq_ok_iff.2 huses] at hc
      cases hc
    exact ⟨fun h => absurd h hnot, fun _ => rfl⟩
  | ok c =>
    have hpasses : (r.run i c s t).code = 0 ↔ r.Passes i s t := by
      rw [ScanRequest.code_run_eq_zero_iff]
      constructor
      · rintro ⟨least, worst, h⟩
        exact ⟨c, least, worst, Invocation.configuration_eq_ok_iff.1 hc, h⟩
      · rintro ⟨c', least, worst, huses, h⟩
        obtain rfl := Except.ok.inj (hc.symm.trans (Invocation.configuration_eq_ok_iff.2 huses))
        exact ⟨least, worst, h⟩
    have hle : (r.run i c s t).code ≤ 1 := ScanRequest.code_run_le_one
    refine ⟨hpasses.2, fun hnot => ?_⟩
    have hne := mt hpasses.1 hnot
    dsimp only
    omega

/-- A tree with one file in it, whose call of `exec` is not closed. -/
def unclosedFile : FileTree := ⟨[(["a.py"], .file "exec(x\n".toUTF8)]⟩

theorem resolve_unclosedFile :
    unclosedFile.resolve "a.py" = .ok ["a.py"] ∧
      unclosedFile.resolve Config.fileName = .error .notFound := by
  have hrefused : FileTree.refused? "a.py" = none ∧ FileTree.refused? Config.fileName = none := by
    simp only [FileTree.refused?, Config.fileName, String.contains_char_eq]
    decide +kernel
  have hfound : unclosedFile.get? ["a.py"] = some (.file "exec(x\n".toUTF8) := rfl
  have hmissing : unclosedFile.get? [Config.fileName] = none := rfl
  constructor
  · rw [FileTree.resolve, FileTree.resolveFrom, hrefused.1,
      show FileTree.start [] "a.py" = ([], ["a.py"]) by decide +kernel]
    dsimp only
    rw [FileTree.follow]
    simp only [List.nil_append, hfound, FileTree.follow]
    decide +kernel
  · rw [FileTree.resolve, FileTree.resolveFrom, hrefused.2,
      show FileTree.start [] Config.fileName = ([], [Config.fileName]) by decide +kernel]
    dsimp only
    rw [FileTree.follow]
    simp only [List.nil_append, hmissing]
    decide +kernel

/-- The call of `exec` fails a scan with the usual settings, and passes one that fails on critical
findings only. -/
theorem exit_codes_of_unclosedFile :
    (runArguments {} unclosedFile ["scan", "a.py", "--fail-on", "critical"]).code = 0 ∧
      (runArguments {} unclosedFile ["scan", "a.py"]).code = 1 := by
  obtain ⟨hthere, hnowhere⟩ := resolve_unclosedFile
  have hfile : unclosedFile.isFile "a.py" = true := by
    rw [FileTree.isFile, hthere]
    rfl
  have hsources : ∀ r : ScanRequest, r.target = "a.py" → r.sources {} unclosedFile = ["a.py"] := by
    intro r hr
    rw [ScanRequest.sources, hr, if_pos hfile]
  have hreport : ∀ r : ScanRequest,
      (r.settings {} {}).reportOf unclosedFile "a.py" = unclosedCall := by
    have hread : unclosedFile.readSource "a.py" = .ok "exec(x\n" := by
      rw [FileTree.readSource, FileTree.read, hthere]
      decide +kernel
    intro r
    rw [ScanSettings.reportOf, Analyzer.analyzeFile, hread]
    rfl
  have hhigh : unclosedCall.findings.map (fun f => f.severity.rank) = [2] := by decide +kernel
  have hconfig : ∀ i : Invocation, i.config = none → i.UsesConfig {} unclosedFile {} := by
    have hnone : unclosedFile.isFile Config.fileName = false := by
      rw [FileTree.isFile, hnowhere]
      rfl
    refine fun i hi => Invocation.UsesConfig.usual hi fun p hp c hc => ?_
    obtain rfl : p = Config.fileName := by simpa [Surroundings.configFiles] using hp
    rw [hc.1] at hnone
    cases hnone
  constructor
  · have hi : Invocation.ofArguments ["scan", "a.py", "--fail-on", "critical"] =
        .ok { command := .scan { target := "a.py", failOn := some "critical" } } := rfl
    refine (scan_exit_code hi rfl {} unclosedFile).1
      ⟨{}, .low, .critical, hconfig _ rfl, ⟨_, rfl⟩, rfl, rfl,
      Or.inl hfile, fun _ => ?_, fun path hpath => ?_, ?_⟩
    · rw [hsources _ rfl]
      exact List.cons_ne_nil _ _
    · cases hpath
    · rw [hsources _ rfl, List.forall_mem_singleton, hreport]
      intro f hf
      have hrank := hhigh ▸ List.mem_map_of_mem hf
      rw [List.mem_singleton.1 hrank]
      decide
  · have hi : Invocation.ofArguments ["scan", "a.py"] =
        .ok { command := .scan { target := "a.py" } } := rfl
    refine (scan_exit_code hi rfl {} unclosedFile).2 ?_
    rintro ⟨c, least, worst, huses, h⟩
    obtain rfl := Except.ok.inj ((Invocation.configuration_eq_ok_iff.2 huses).symm.trans
      (Invocation.configuration_eq_ok_iff.2 (hconfig _ rfl)))
    obtain rfl : Severity.low = least := Option.some.inj h.minSeverity
    obtain rfl : Severity.high = worst := Option.some.inj h.failOn
    have hfindings := h.findings
    rw [hsources _ rfl, List.forall_mem_singleton, hreport] at hfindings
    obtain ⟨f, hf, hrank⟩ := List.mem_map.1 (hhigh ▸ List.mem_singleton_self 2)
    exact absurd (hfindings f hf) (by rw [hrank]; decide)

end PythonAudit
