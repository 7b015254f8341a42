import Mathlib.Data.List.Forall2
import Mathlib.Tactic
import PythonAudit.Render.Format

/-!
# What is shown to read

* `headText`, `noteText`, `riskText`, `countText`, `entryText` and `summaryText` say what the parts
  of a text are in plain characters, and `blockText` puts those of a report together;
* `Document.spelled` says the same of a document in colours, piece by piece;
* a `Block` is a block taken apart, and `Block.Of verbose r b` says that it is the one of a report;
* `blockOf` finds it: `document_blockOf` says that it is what is shown, and `of_blockOf` that it is
  as it should be;
* `sum_tally` says that each finding is counted once, and `sum_length_shownReports` that none is
  lost with the reports that are left out;
* `text_lists_every_finding` puts this together.
-/

namespace PythonAudit

namespace Document

@[simp] theorem plain_nil : plain [] = "" := rfl

@[simp] theorem plain_append (d e : Document) : plain (d ++ e) = plain d ++ plain e := by
  rw [plain, List.flatMap_append, String.ofList_append]
  rfl

@[simp] theorem plain_cons (span : Span) (d : Document) :
    plain (span :: d) = span.text ++ plain d := by
  rw [plain, List.flatMap_cons, String.ofList_append, Span.plain, String.ofList_toList]
  rfl

@[simp] theorem plain_lineOf (d : Document) : plain (lineOf d) = plain d ++ "\n" := by
  simp [lineOf, plainText]

theorem plain_flatten (ds : List Document) : plain ds.flatten = String.join (ds.map plain) := by
  rw [← String.toList_inj]
  induction ds with
  | nil => rfl
  | cons d ds ih =>
    rw [List.flatten_cons, plain_append, String.toList_append, ih]
    simp [String.toList_join]

theorem plain_flatMap {α : Type} (xs : List α) (f : α → Document) :
    plain (xs.flatMap f) = String.join (xs.map fun x => plain (f x)) := by
  rw [List.flatMap_def, plain_flatten, List.map_map]
  rfl

/-- What a terminal gets for a document: each piece as it is, or between the codes of its style. -/
def spelled (d : Document) : String :=
  String.join (d.map fun span =>
    match span.style with
    | none => span.text
    | some style =>
      "\x1b[" ++ String.intercalate ";" style.codes ++ "m" ++
        String.ofList (style.resume span.text.toList) ++ "\x1b[0m")

theorem coloured_eq_spelled (d : Document) : d.coloured = d.spelled := by
  rw [← String.toList_inj, coloured, spelled, String.toList_ofList, String.toList_join]
  induction d with
  | nil => rfl
  | cons span d ih =>
    rw [List.flatMap_cons, ih, List.map_cons, List.flatMap_cons]
    refine congrArg (· ++ _) ?_
    unfold Span.coloured
    cases span.style with
    | none => rfl
    | some style => simp [Style.opening, Style.closing]

theorem spelled_append (d e : Document) : spelled (d ++ e) = spelled d ++ spelled e := by
  rw [spelled, List.map_append, String.join_append]
  rfl

theorem spelled_flatMap {α : Type} (xs : List α) (f : α → Document) :
    spelled (xs.flatMap f) = String.join (xs.map fun x => spelled (f x)) := by
  induction xs with
  | nil => rfl
  | cons x xs ih => rw [List.flatMap_cons, spelled_append, ih, List.map_cons, String.join_cons]

end Document

namespace Render

/-! ### What the parts of a text say -/

/-- The signs across the page. -/
def signs : String := String.ofList (List.replicate 70 '=')

/-- The start of a block: the file that it is about. -/
def headText (r : Report) : String :=
  "\n" ++ signs ++ "\n File: " ++ r.filename ++ "\n" ++ signs ++ "\n"

/-- The line about an error. -/
def errorText (e : String) : String := " Error: " ++ e ++ "\n"

/-- Nothing follows the error of a report without findings. -/
def endsWithError (r : Report) : Bool := r.error.isSome && r.findings.isEmpty

/-- What a block says about an error, if there is one. -/
def noteText (r : Report) : String :=
  match r.error with
  | none => ""
  | some e => errorText e ++ if r.findings.isEmpty then "" else " Token-level findings:\n"

/-- The risk of a report and the number of its findings. -/
def riskText (r : Report) : String :=
  "\n Risk score: " ++ outOfTen r.riskScore ++ "\n Risk level: " ++
    (levelLabel (RiskLevel.ofScore r.riskScore)).text ++
    "\n Findings:   " ++ Nat.repr r.findings.length ++ "\n"

/-- What stands between the counts and the entries. -/
def middleText (r : Report) : String :=
  if r.findings.isEmpty then "\n ✓ No malicious patterns found.\n" else "\n"

/-- How many findings there are of a severity. -/
def countText (s : Severity) (n : Nat) : String :=
  "   " ++ padRight 9 s.written ++ " " ++ Nat.repr n

/-- The entry of a finding: its number, its severity and description, its place, who found it, and
perhaps what was matched. -/
def entryText (verbose : Bool) (number : Nat) (f : Finding) : String :=
  padLeft 4 (Nat.repr number) ++ ". [ " ++ f.severity.written ++ " ] " ++ f.description ++ "\n" ++
    "      --> line " ++ Nat.repr f.line ++ ", column " ++ Nat.repr f.column ++ " (" ++
      f.detector ++ ")\n" ++
    if verbose && f.pattern != "" then "      pattern: " ++ f.pattern ++ "\n" else ""

/-- The entries of findings, numbered from one. -/
def entryTexts (verbose : Bool) (fs : List Finding) : List String :=
  (fs.zipIdx 1).map fun p => entryText verbose p.2 p.1

/-- The severities that occur among findings with their numbers, worst first. -/
def tally (fs : List Finding) : List (Severity × Nat) :=
  ([Severity.critical, .high, .medium, .low].map fun s =>
    (s, fs.countP fun f => f.severity = s)).filter
    fun p => 0 < p.2

/-- The text of a block. -/
def blockText (verbose : Bool) (r : Report) : String :=
  headText r ++ noteText r ++ (if endsWithError r then "" else riskText r) ++
    String.join ((tally r.findings).map fun p => countText p.1 p.2 ++ "\n") ++
    (if endsWithError r then "" else middleText r) ++ String.join (entryTexts verbose r.findings)

theorem rule_eq (c : Colour) : rule c = lineOf [styled (colourOf c) signs] := rfl

theorem plain_findingLines (verbose : Bool) (number : Nat) (f : Finding) :
    (findingLines verbose number f).plain = entryText verbose number f := by
  rw [← String.toList_inj]
  unfold findingLines entryText
  split_ifs <;> simp [plainText, styled, severityLabel]

theorem plain_blockHead (r : Report) : (blockHead r).plain = headText r := by
  rw [← String.toList_inj]
  simp [blockHead, blankLine, rule_eq, plainText, styled, headText]

theorem plain_errorLine (e : String) : (errorLine e).plain = errorText e := by
  rw [← String.toList_inj]
  simp [errorLine, plainText, styled, errorText]

theorem numbered_eq (verbose : Bool) (number : Nat) (fs : List Finding) :
    numbered verbose number fs =
      ((fs.zipIdx number).map fun p => findingLines verbose p.2 p.1).flatten := by
  induction fs generalizing number with
  | nil => rfl
  | cons f fs ih => rw [numbered, ih, List.zipIdx_cons, List.map_cons, List.flatten_cons]

theorem countLines_eq (r : Report) :
    countLines r = (tally r.findings).flatMap fun p => textLine (countText p.1 p.2) := by
  have htally : r.severityCounts.reverse = tally r.findings := by
    rw [Report.severityCounts, ← List.filter_reverse, ← List.map_reverse, tally]
    simp only [Report.count, List.countP_eq_length_filter]
    rfl
  rw [countLines, htally]
  rfl

/-- What is left out of a sum may be zero. -/
theorem sum_map_filter {α : Type} {p : α → Bool} {f : α → Nat} {xs : List α}
    (h : ∀ x, p x = false → f x = 0) :
    ((xs.filter p).map f).sum = (xs.map f).sum := by
  induction xs with
  | nil => rfl
  | cons x xs ih =>
    by_cases hx : p x = true
    · simp [hx, ih]
    · simp [hx, ih, h x (by simpa using hx)]

/-- Each finding is counted once. -/
theorem sum_tally (fs : List Finding) : ((tally fs).map Prod.snd).sum = fs.length := by
  rw [tally, sum_map_filter (by simp)]
  simp only [List.map_cons, List.map_nil, List.sum_cons, List.sum_nil]
  induction fs with
  | nil => rfl
  | cons f fs ih =>
    simp only [List.countP_cons, List.length_cons]
    cases f.severity <;> simp <;> omega

/-! ### Blocks -/

/-- A block taken apart: what stands above the counts, the counts, what stands below them, and the
entries. -/
structure Block where
  head : Document
  counts : List (Severity × Nat)
  middle : Document
  entries : List Document

/-- The block put together. -/
def Block.document (b : Block) : Document :=
  b.head ++ b.counts.flatMap (fun p => textLine (countText p.1 p.2)) ++ b.middle ++
    b.entries.flatten

/-- The block is the one of a report. -/
structure Block.Of (verbose : Bool) (r : Report) (b : Block) : Prop where
  head : b.head.plain = headText r ++ noteText r ++ if endsWithError r then "" else riskText r
  counts : b.counts = tally r.findings
  middle : b.middle.plain = if endsWithError r then "" else middleText r
  entries : b.entries.map Document.plain = entryTexts verbose r.findings

/-! ### Blocks of reports -/

/-- The lines about an error, if there is one. -/
def noteLines (r : Report) : Document :=
  match r.error with
  | none => []
  | some e =>
    errorLine e ++
      if r.findings.isEmpty then []
      else lineOf [plainText " ", styled dimmed "Token-level findings:"]

/-- The lines about the risk of a report. -/
def riskLines (r : Report) : Document :=
  blankLine ++ textLine (" Risk score: " ++ outOfTen r.riskScore) ++
    lineOf [plainText " Risk level: ", levelLabel (RiskLevel.ofScore r.riskScore)] ++
    textLine (" Findings:   " ++ Nat.repr r.findings.length)

/-- The lines between the counts and the entries. -/
def middleLines (r : Report) : Document := blankLine ++ if r.findings.isEmpty then cleanLine else []

/-- The block of a report, taken apart. -/
def blockOf (verbose : Bool) (r : Report) : Block where
  head := blockHead r ++ noteLines r ++ if endsWithError r then [] else riskLines r
  counts := tally r.findings
  middle := if endsWithError r then [] else middleLines r
  entries := (r.findings.zipIdx 1).map fun p => findingLines verbose p.2 p.1

theorem plain_noteLines (r : Report) : (noteLines r).plain = noteText r := by
  unfold noteLines noteText
  cases r.error with
  | none => rfl
  | some e =>
    dsimp only
    split_ifs
    · simp [plain_errorLine]
    · rw [Document.plain_append, plain_errorLine]
      rfl

theorem plain_riskLines (r : Report) : (riskLines r).plain = riskText r := by
  unfold riskLines riskText
  -- what is written for the score and the level does not matter
  generalize outOfTen r.riskScore = score
  generalize levelLabel (RiskLevel.ofScore r.riskScore) = level
  rw [← String.toList_inj]
  simp [blankLine, textLine, plainText]

theorem plain_middleLines (r : Report) : (middleLines r).plain = middleText r := by
  unfold middleLines middleText
  split_ifs <;> rfl

theorem of_blockOf (verbose : Bool) (r : Report) : (blockOf verbose r).Of verbose r where
  head := by
    simp only [blockOf, Document.plain_append, plain_blockHead, plain_noteLines]
    split_ifs
    · rfl
    · rw [plain_riskLines]
  counts := rfl
  middle := by
    simp only [blockOf]
    split_ifs
    · rfl
    · exact plain_middleLines r
  entries := by simp [blockOf, entryTexts, plain_findingLines]

theorem details_eq (verbose : Bool) (r : Report) :
    details verbose r = riskLines r ++
      ((tally r.findings).flatMap fun p => textLine (countText p.1 p.2)) ++
      middleLines r ++
        ((r.findings.zipIdx 1).map fun p => findingLines verbose p.2 p.1).flatten := by
  have hoverview : overview r = riskLines r ++ countLines r := rfl
  rw [details, hoverview, countLines_eq, middleLines]
  split_ifs with hempty
  · simp [List.isEmpty_iff.1 hempty]
  · rw [numbered_eq, List.append_nil]

theorem document_blockOf (verbose : Bool) (r : Report) :
    (blockOf verbose r).document = block verbose r := by
  unfold block blockOf Block.document noteLines endsWithError
  cases r.error with
  | none => simp [details_eq]
  | some e =>
    by_cases hempty : r.findings.isEmpty = true
    · simp [List.isEmpty_iff.1 hempty, tally]
    · simp [hempty, details_eq]

theorem Block.Of.length_entries {verbose : Bool} {r : Report} {b : Block} (h : b.Of verbose r) :
    b.entries.length = r.findings.length := by
  have hlength := congrArg List.length h.entries
  simpa [entryTexts] using hlength

theorem Block.Of.entry {verbose : Bool} {r : Report} {b : Block} (h : b.Of verbose r) {i : Nat}
    {f : Finding} (hf : r.findings[i]? = some f) :
    b.entries[i]?.map Document.plain = some (entryText verbose (i + 1) f) := by
  rw [← List.getElem?_map, h.entries, entryTexts, List.getElem?_map, List.getElem?_zipIdx, hf]
  simp [Nat.add_comm]

/-- The blocks of a report say the same. -/
theorem Block.Of.plain_document {verbose : Bool} {r : Report} {b : Block} (h : b.Of verbose r) :
    b.document.plain = blockText verbose r := by
  have hcount : ∀ p : Severity × Nat,
      (textLine (countText p.1 p.2)).plain = countText p.1 p.2 ++ "\n" := by
    intro p
    simp [textLine, plainText]
  rw [document, Document.plain_append, Document.plain_append, Document.plain_append, h.head,
    h.middle, h.counts, Document.plain_flatten, h.entries, Document.plain_flatMap, blockText]
  simp only [hcount]

/-! ### The whole text -/

/-- A report of a clean file gets no block when there are others. -/
def omitted (s : ScanReport) (r : Report) : Bool :=
  decide (2 ≤ s.reports.length) && r.isSuccess && r.findings.isEmpty

/-- The line of a summary about one of the riskiest files. -/
def riskyText (r : Report) : String :=
  "   - " ++ (Path.fileName? r.filename).getD r.filename ++ ": " ++ outOfTen r.riskScore ++ " (" ++
    Nat.repr r.findings.length ++ " findings)\n"

/-- What a summary says: the number of reports, the number of findings in all of them, and more. -/
def summaryText (s : ScanReport) : String :=
  "\n" ++ signs ++ "\n Summary\n" ++ signs ++ "\n Files analyzed:      " ++
    Nat.repr s.reports.length ++
    "\n Total findings:      " ++ Nat.repr s.totalFindings ++
    "\n Files with findings: " ++ Nat.repr s.filesWithFindings ++
    "\n Average risk:        " ++ writeFixed 1 s.averageRisk ++ "/10\n" ++
    (if s.failures = 0 then "" else " Files with errors:   " ++ Nat.repr s.failures ++ "\n") ++
    (if (s.riskiest 3).isEmpty then ""
      else "\n Riskiest files:\n" ++ String.join ((s.riskiest 3).map riskyText))

theorem shownReports_eq (s : ScanReport) :
    shownReports s = s.reports.filter fun r => !omitted s r := by
  unfold shownReports omitted isClean
  by_cases hmany : 2 ≤ s.reports.length
  · rw [if_pos (by omega)]
    simp [hmany]
  · rw [if_neg (by omega)]
    simp [hmany]

theorem plain_riskyLine (r : Report) : (riskyLine r).plain = riskyText r := by
  unfold riskyLine riskyText
  generalize (Path.fileName? r.filename).getD r.filename = name
  generalize outOfTen r.riskScore = score
  rw [← String.toList_inj]
  simp [styled]

theorem plain_riskyLines (rs : List Report) :
    (riskyLines rs).plain =
      if rs.isEmpty then "" else "\n Riskiest files:\n" ++ String.join (rs.map riskyText) := by
  unfold riskyLines
  split_ifs
  · rfl
  · rw [Document.plain_append, Document.plain_flatMap]
    simp only [plain_riskyLine]
    rfl

theorem plain_summary (s : ScanReport) : (summary s).plain = summaryText s := by
  unfold summary summaryText
  generalize writeFixed 1 s.averageRisk = mean
  rw [Document.plain_append, plain_riskyLines]
  generalize (if (s.riskiest 3).isEmpty = true then "" else _) = risky
  rw [← String.toList_inj]
  split_ifs <;> simp [blankLine, textLine, rule_eq, plainText, styled]

theorem sum_length_shownReports (s : ScanReport) :
    ((shownReports s).map fun r => r.findings.length).sum = s.totalFindings := by
  rw [shownReports_eq, sum_map_filter]
  · rfl
  · intro r hr
    simp only [omitted, Bool.not_eq_false', Bool.and_eq_true, List.isEmpty_iff] at hr
    rw [hr.2, List.length_nil]

theorem length_shownReports_add (s : ScanReport) :
    (shownReports s).length + s.reports.countP (omitted s) = s.reports.length := by
  rw [shownReports_eq, ← List.countP_eq_length_filter, Nat.add_comm]
  simpa using (List.length_eq_countP_add_countP (omitted s) (l := s.reports)).symm

theorem mem_shownReports {s : ScanReport} {r : Report} (hr : r ∈ s.reports)
    (h : r.isSuccess = false ∨ r.findings ≠ []) : r ∈ shownReports s := by
  rw [shownReports_eq, List.mem_filter]
  refine ⟨hr, ?_⟩
  rcases h with hfailed | hsome
  · simp [omitted, hfailed]
  · simp [omitted, hsome]

/-- **Nothing is hidden from a reader.** The text is the blocks of the reports, but for clean ones
among several, and then the summary of several; each block lists all findings of its report. -/
theorem text_lists_every_finding (verbose : Bool) (s : ScanReport) :
    OutputFormat.text.render verbose false s =
      String.join ((s.reports.filter fun r => !omitted s r).map (blockText verbose)) ++
        (if 2 ≤ s.reports.length then summaryText s else "") ∧
    ∃ (blocks : List Block) (tail : Document),
      OutputFormat.text.render verbose true s =
        String.join (blocks.map fun b => b.document.spelled) ++ tail.spelled ∧
      List.Forall₂ (fun r b => b.Of verbose r) (s.reports.filter fun r => !omitted s r) blocks ∧
      (if 2 ≤ s.reports.length then tail.plain = summaryText s else tail = []) ∧
      (∀ r ∈ s.reports, r.isSuccess = false ∨ r.findings ≠ [] → ∃ b ∈ blocks, b.Of verbose r) ∧
      (∀ (r : Report) (b : Block), b.Of verbose r →
        b.document.plain = blockText verbose r ∧
        b.entries.length = r.findings.length ∧
        (∀ i f, r.findings[i]? = some f →
          b.entries[i]?.map Document.plain = some (entryText verbose (i + 1) f)) ∧
        (b.counts.map Prod.snd).sum = r.findings.length) ∧
      (blocks.map fun b => b.entries.length).sum = s.totalFindings ∧
      blocks.length + s.reports.countP (omitted s) = s.reports.length := by
  have htext : Render.text verbose s =
      ((shownReports s).map (blockOf verbose)).flatMap Block.document ++
        if 2 ≤ s.reports.length then summary s else [] := by
    simp only [Render.text, List.flatMap_map, document_blockOf]
    rfl
  refine ⟨?_, (shownReports s).map (blockOf verbose),
    if 2 ≤ s.reports.length then summary s else [], ?_, ?_, ?_, ?_, ?_, ?_, ?_⟩
  · have hplain : ∀ r, (blockOf verbose r).document.plain = blockText verbose r := fun r =>
      (of_blockOf verbose r).plain_document
    have hrender : OutputFormat.text.render verbose false s = (Render.text verbose s).plain := rfl
    rw [hrender, htext, Document.plain_append, List.flatMap_map, Document.plain_flatMap,
      ← shownReports_eq]
    simp only [hplain]
    split_ifs
    · rw [plain_summary]
    · rfl
  · have hrender : OutputFormat.text.render verbose true s = (Render.text verbose s).coloured := rfl
    rw [hrender, Document.coloured_eq_spelled, htext, Document.spelled_append,
      Document.spelled_flatMap]
  · rw [← shownReports_eq, List.forall₂_map_right_iff, List.forall₂_same]
    exact fun r _ => of_blockOf verbose r
  · split_ifs
    · exact plain_summary s
    · rfl
  · intro r hr h
    exact ⟨_, List.mem_map_of_mem (mem_shownReports hr h), of_blockOf verbose r⟩
  · intro r b hb
    refine ⟨hb.plain_document, hb.length_entries, fun i f hf => hb.entry hf, ?_⟩
    rw [hb.counts, sum_tally]
  · rw [← sum_length_shownReports, List.map_map]
    congr 1
    exact List.map_congr_left fun r _ => (of_blockOf verbose r).length_entries
  · rw [List.length_map]
    exact length_shownReports_add s

/-- The report of a file with findings. -/
def flaggedReport : Report :=
  ⟨"a.py", [⟨"D", .high, "first", 1, 0, "eval"⟩, ⟨"D", .low, "second", 2, 4, ""⟩], Double.ofNat 2,
    .success, none⟩

/-- The report of a file that could not be analyzed. -/
def failedReport : Report := ⟨"c.py", [], Double.zero, .error, some "invalid syntax"⟩

/-- A file with findings, a clean one, and one that could not be analyzed. -/
def mixedScan : ScanReport :=
  ⟨[flaggedReport, ⟨"b.py", [], Double.zero, .success, none⟩, failedReport]⟩

theorem text_of_mixedScan :
    OutputFormat.text.render true false mixedScan =
        blockText true flaggedReport ++ blockText true failedReport ++ summaryText mixedScan ∧
      ∃ blocks : List Block, blocks.length = 2 ∧ (blocks.map fun b => b.entries.length).sum = 2 ∧
        ∃ b ∈ blocks, b.Of true failedReport := by
  obtain ⟨htext, blocks, tail, -, -, -, hfailed, -, hentries, hlength⟩ :=
    text_lists_every_finding true mixedScan
  refine ⟨?_, blocks, ?_, hentries, hfailed _ (by simp [mixedScan]) (Or.inl rfl)⟩
  · have hshown : mixedScan.reports.filter (fun r => !omitted mixedScan r) =
        [flaggedReport, failedReport] := rfl
    rw [htext, hshown, if_pos (by decide)]
    simp [String.join]
  · have homitted : mixedScan.reports.countP (omitted mixedScan) = 1 := rfl
    have hreports : mixedScan.reports.length = 3 := rfl
    omega

end Render

end PythonAudit
