import PythonAudit.Proofs.PathOrder
import PythonAudit.Proofs.Printed
import PythonAudit.Render.Format

/-!
# Colours add nothing but colours

* `unstyled` takes the control sequences of a terminal out of a text;
* `Span.unstyled_coloured` says so about a piece without escapes of its own, and
  `Document.Unescaped.unstyled_coloured` about a whole document: what is left is the plain text;
* `unescaped_block` and `unescaped_summary` say that the parts of a report to read have no escapes
  when the texts of the report have none, so that this holds for each format
  (`OutputFormat.unescaped_document`);
* `OutputFormat.render_eq_iff` says when there are colours at all;
* `unstyled_render` puts this together.
-/

namespace PythonAudit

open Text

/-! ### Control sequences -/

/-- What follows the next `m` of a text. -/
def afterMark? : List Char → Option (List Char)
  | [] => none
  | c :: r => if c = 'm' then some r else afterMark? r

theorem length_lt_of_afterMark? {cs rest : List Char} (h : afterMark? cs = some rest) :
    rest.length < cs.length := by
  induction cs with
  | nil => cases h
  | cons c cs ih =>
    rw [afterMark?] at h
    split_ifs at h with hc
    · cases h
      exact Nat.lt_succ_self _
    · exact Nat.lt_succ_of_lt (ih h)

/-- The text without its control sequences. Each of them goes from an escape with a bracket to the
next `m`. -/
def unstyled : List Char → List Char
  | [] => []
  | c :: r =>
    if c = '\x1b' ∧ r.head? = some '[' then
      match _h : afterMark? r.tail with
      | some rest => unstyled rest
      | none => c :: unstyled r
    else c :: unstyled r
termination_by cs => cs.length
decreasing_by
  · have hrest := length_lt_of_afterMark? _h
    simp only [List.length_tail, List.length_cons] at hrest ⊢
    omega
  · exact Nat.lt_succ_self _
  · exact Nat.lt_succ_self _

theorem unstyled_nil : unstyled [] = [] := by rw [unstyled]

/-- What has no escape stays as it is. -/
theorem unstyled_append {cs : List Char} (h : '\x1b' ∉ cs) (rest : List Char) :
    unstyled (cs ++ rest) = cs ++ unstyled rest := by
  induction cs with
  | nil => rfl
  | cons c cs ih =>
    obtain ⟨hc, hcs⟩ := List.ne_and_not_mem_of_not_mem_cons h
    rw [List.cons_append, unstyled, if_neg fun hand => hc hand.1.symm, ih hcs, List.cons_append]

theorem afterMark?_append {cs : List Char} (h : 'm' ∉ cs) (rest : List Char) :
    afterMark? (cs ++ 'm' :: rest) = some rest := by
  induction cs with
  | nil => simp [afterMark?]
  | cons c cs ih =>
    obtain ⟨hc, hcs⟩ := List.ne_and_not_mem_of_not_mem_cons h
    rw [List.cons_append, afterMark?, if_neg hc.symm, ih hcs]

/-- A control sequence is left out. -/
theorem unstyled_sequence {cs : List Char} (h : 'm' ∉ cs) (rest : List Char) :
    unstyled ('\x1b' :: '[' :: (cs ++ 'm' :: rest)) = unstyled rest := by
  rw [unstyled, if_pos ⟨rfl, rfl⟩]
  simp only [List.tail_cons]
  split
  next rest' hrest =>
    rw [afterMark?_append h] at hrest
    cases hrest
    rfl
  next hnone =>
    rw [afterMark?_append h] at hnone
    cases hnone

/-! ### Styles -/

theorem Style.mark_notMem_codes (s : Style) : ∀ code ∈ s.codes, 'm' ∉ code.toList := by
  have hfront : ∀ c : Colour, 'm' ∉ c.code.toList := by intro c; cases c <;> decide
  have hback : ∀ c : Colour, 'm' ∉ c.backgroundCode.toList := by intro c; cases c <;> decide
  have hattribute : ∀ (b : Bool) (digit : String), 'm' ∉ digit.toList →
      ∀ code ∈ (if b then [digit] else []), 'm' ∉ code.toList := by
    intro b digit hdigit code hcode
    split_ifs at hcode
    · rwa [List.mem_singleton.1 hcode]
    · cases hcode
  intro code hcode
  simp only [codes, List.mem_append, List.mem_map] at hcode
  rcases hcode with (((hbold | hdimmed) | hunderline) | ⟨c, -, rfl⟩) | ⟨c, -, rfl⟩
  · exact hattribute _ "1" (by decide) code hbold
  · exact hattribute _ "2" (by decide) code hdimmed
  · exact hattribute _ "4" (by decide) code hunderline
  · exact hback c
  · exact hfront c

theorem notMem_intercalate {x : Char} {separator : String} (hseparator : x ∉ separator.toList)
    {texts : List String} (h : ∀ text ∈ texts, x ∉ text.toList) :
    x ∉ (separator.intercalate texts).toList := by
  induction texts with
  | nil => simp
  | cons text texts ih =>
    obtain ⟨htext, htexts⟩ := List.forall_mem_cons.1 h
    cases texts with
    | nil => rwa [String.intercalate_singleton]
    | cons text' texts =>
      rw [String.intercalate_cons_cons, String.toList_append, String.toList_append, List.mem_append,
        List.mem_append]
      exact not_or.2 ⟨not_or.2 ⟨htext, hseparator⟩, ih htexts⟩

theorem Style.unstyled_opening (s : Style) (rest : List Char) :
    unstyled (s.opening ++ rest) = unstyled rest := by
  have hcodes : 'm' ∉ (String.intercalate ";" s.codes).toList :=
    notMem_intercalate (by decide) s.mark_notMem_codes
  simp only [opening, List.cons_append, List.append_assoc, List.nil_append]
  exact unstyled_sequence hcodes rest

theorem Style.unstyled_closing (rest : List Char) : unstyled (closing ++ rest) = unstyled rest := by
  have hcode : 'm' ∉ ['0'] := by decide
  exact unstyled_sequence hcode rest

theorem Style.resume_of_notMem (s : Style) {cs : List Char} (h : '\x1b' ∉ cs) :
    s.resume cs = cs := by
  induction cs with
  | nil => rfl
  | cons c cs ih =>
    obtain ⟨hc, hcs⟩ := List.ne_and_not_mem_of_not_mem_cons h
    rw [resume, ih hcs]
    intro _ hescape
    exact absurd hescape.symm hc


theorem Span.unstyled_coloured {span : Span} (h : '\x1b' ∉ span.text.toList) (rest : List Char) :
    unstyled (span.coloured ++ rest) = span.plain ++ unstyled rest := by
  obtain ⟨text, style⟩ := span
  cases style with
  | none => exact unstyled_append h rest
  | some style =>
    simp only [coloured, plain, List.append_assoc]
    rw [style.unstyled_opening, style.resume_of_notMem h, unstyled_append h, Style.unstyled_closing]

/-! ### Texts without escapes -/

/-- The text has no escape. -/
def Unescaped (text : String) : Prop := '\x1b' ∉ text.toList

instance (text : String) : Decidable (Unescaped text) :=
  inferInstanceAs (Decidable (¬ '\x1b' ∈ text.toList))

@[simp] theorem unescaped_append {a b : String} :
    Unescaped (a ++ b) ↔ Unescaped a ∧ Unescaped b := by
  simp [Unescaped]

theorem unescaped_of_printable {text : String} (h : Printable text.toList) : Unescaped text :=
  h.notMem (by decide)

@[simp] theorem unescaped_repr (n : Nat) : Unescaped (Nat.repr n) :=
  unescaped_of_printable (printable_repr n)

namespace Document

/-- No piece of the document has an escape. -/
def Unescaped (d : Document) : Prop := ∀ span ∈ d, PythonAudit.Unescaped span.text

@[simp] theorem unescaped_nil : Unescaped [] := List.forall_mem_nil _

@[simp] theorem unescaped_cons {span : Span} {d : Document} :
    Unescaped (span :: d) ↔ PythonAudit.Unescaped span.text ∧ Unescaped d := List.forall_mem_cons

@[simp] theorem unescaped_append {d e : Document} :
    Unescaped (d ++ e) ↔ Unescaped d ∧ Unescaped e :=
  List.forall_mem_append

theorem unescaped_flatMap {α : Type} {xs : List α} {f : α → Document}
    (h : ∀ x ∈ xs, Unescaped (f x)) :
    Unescaped (xs.flatMap f) := by
  intro span hspan
  obtain ⟨x, hx, hmem⟩ := List.mem_flatMap.1 hspan
  exact h x hx span hmem

/-- Without its control sequences the coloured text is the plain text. -/
theorem Unescaped.unstyled_coloured {d : Document} (h : Unescaped d) :
    unstyled d.coloured.toList = d.plain.toList := by
  rw [coloured, plain, String.toList_ofList, String.toList_ofList]
  induction d with
  | nil => exact unstyled_nil
  | cons span d ih =>
    obtain ⟨hspan, hd⟩ := unescaped_cons.1 h
    rw [List.flatMap_cons, List.flatMap_cons, Span.unstyled_coloured hspan, ih hd]

end Document

/-! ### Reports without escapes -/

/-- The texts of a finding have no escapes. -/
structure Finding.Unescaped (f : Finding) : Prop where
  detector : PythonAudit.Unescaped f.detector
  description : PythonAudit.Unescaped f.description
  pattern : PythonAudit.Unescaped f.pattern

/-- The texts of a report have no escapes. -/
structure Report.Unescaped (r : Report) : Prop where
  filename : PythonAudit.Unescaped r.filename
  findings : ∀ f ∈ r.findings, f.Unescaped
  error : ∀ e ∈ r.error, PythonAudit.Unescaped e

/-- The texts of all reports have no escapes. -/
def ScanReport.Unescaped (s : ScanReport) : Prop := ∀ r ∈ s.reports, r.Unescaped

namespace Render

@[simp] theorem unescaped_lineOf {d : Document} : (lineOf d).Unescaped ↔ d.Unescaped := by
  simp +decide [lineOf, plainText]

@[simp] theorem unescaped_rule (c : Colour) : (rule c).Unescaped := by
  simp +decide [rule, styled]

@[simp] theorem unescaped_outOfTen (score : Double) : Unescaped (outOfTen score) := by
  have hwritten : Unescaped (plainLayout.write score) :=
    unescaped_of_printable (plainLayout.printable_write (by decide) score)
  simp +decide [outOfTen, hwritten]

@[simp] theorem unescaped_written (s : Severity) : Unescaped s.written := by cases s <;> decide

theorem unescaped_blanks (n : Nat) : Unescaped (String.ofList (List.replicate n ' ')) := by
  refine unescaped_of_printable ?_
  rw [String.toList_ofList]
  exact printable_replicate n (by decide)

@[simp] theorem unescaped_padRight {width : Nat} {text : String} :
    Unescaped (padRight width text) ↔ Unescaped text := by
  simp [padRight, unescaped_blanks]

@[simp] theorem unescaped_padLeft {width : Nat} {text : String} :
    Unescaped (padLeft width text) ↔ Unescaped text := by
  simp [padLeft, unescaped_blanks]

/-! #### Blocks -/

theorem unescaped_countLines (r : Report) : (countLines r).Unescaped := by
  refine Document.unescaped_flatMap ?_
  rintro ⟨s, n⟩ -
  simp +decide [textLine, plainText]

theorem unescaped_overview (r : Report) : (overview r).Unescaped := by
  have hlevel (level : RiskLevel) : Unescaped (levelLabel level).text := by cases level <;> decide
  simp +decide [overview, blankLine, textLine, plainText, hlevel, unescaped_countLines]

variable {verbose : Bool}

theorem unescaped_findingLines {f : Finding} (h : f.Unescaped) (number : Nat) :
    (findingLines verbose number f).Unescaped := by
  obtain ⟨hdetector, hdescription, hpattern⟩ := h
  unfold findingLines
  split_ifs <;> simp +decide [plainText, styled, severityLabel, hdetector, hdescription, hpattern]

theorem unescaped_numbered {fs : List Finding} (h : ∀ f ∈ fs, f.Unescaped) (number : Nat) :
    (numbered verbose number fs).Unescaped := by
  induction fs generalizing number with
  | nil => exact Document.unescaped_nil
  | cons f fs ih =>
    obtain ⟨hf, hfs⟩ := List.forall_mem_cons.1 h
    rw [numbered, Document.unescaped_append]
    exact ⟨unescaped_findingLines hf number, ih hfs (number + 1)⟩

theorem unescaped_details {r : Report} (h : r.Unescaped) : (details verbose r).Unescaped := by
  have hnumbered : (numbered verbose 1 r.findings).Unescaped := unescaped_numbered h.findings 1
  unfold details
  split_ifs <;>
    simp +decide [blankLine, cleanLine, plainText, styled, unescaped_overview, hnumbered]

theorem unescaped_block {r : Report} (h : r.Unescaped) : (block verbose r).Unescaped := by
  have hdetails : (details verbose r).Unescaped := unescaped_details h
  have hhead : (blockHead r).Unescaped := by
    simp +decide [blockHead, blankLine, plainText, styled, h.filename]
  unfold block
  rw [Document.unescaped_append]
  refine ⟨hhead, ?_⟩
  cases herror : r.error with
  | none => exact hdetails
  | some e =>
    have he := h.error e herror
    dsimp only
    split_ifs <;> simp +decide [errorLine, plainText, styled, he, hdetails]

/-! #### Summary -/

theorem unescaped_fileName {path name : String} (h : Unescaped path)
    (hname : Path.fileName? path = some name) :
    Unescaped name :=
  fun hmem => h (Path.subset_of_mem_pieces (Path.mem_pieces_of_fileName? hname) hmem)

theorem unescaped_riskyLine {r : Report} (h : r.Unescaped) : (riskyLine r).Unescaped := by
  have hname : Unescaped ((Path.fileName? r.filename).getD r.filename) := by
    cases hfile : Path.fileName? r.filename with
    | none => exact h.filename
    | some name => exact unescaped_fileName h.filename hfile
  simp +decide [riskyLine, styled, hname]

theorem unescaped_summary {s : ScanReport} (h : s.Unescaped) : (summary s).Unescaped := by
  have hrisky : (riskyLines (s.riskiest 3)).Unescaped := by
    unfold riskyLines
    split_ifs
    · exact Document.unescaped_nil
    · have hlines : Document.Unescaped ((s.riskiest 3).flatMap riskyLine) := by
        refine Document.unescaped_flatMap fun r hr => unescaped_riskyLine (h r ?_)
        have hpositive := List.mem_mergeSort.1 (List.mem_of_mem_take hr)
        exact List.mem_of_mem_filter hpositive
      simp +decide [blankLine, plainText, styled, hlines]
  have hmean : Unescaped (writeFixed 1 s.averageRisk) :=
    unescaped_of_printable (printable_writeFixed 1 _)
  unfold summary
  split_ifs <;> simp +decide [blankLine, textLine, plainText, styled, hmean, hrisky]

end Render

open Render

theorem OutputFormat.unescaped_document (f : OutputFormat) (verbose : Bool) {s : ScanReport}
    (h : s.Unescaped) :
    (f.document verbose s).Unescaped := by
  cases f with
  | text =>
    have hblocks : Document.Unescaped ((shownReports s).flatMap (block verbose)) := by
      refine Document.unescaped_flatMap fun r hr => unescaped_block (h r ?_)
      unfold shownReports at hr
      split_ifs at hr
      · exact List.mem_of_mem_filter hr
      · exact hr
    unfold document Render.text
    split_ifs <;> simp [hblocks, unescaped_summary h]
  | json =>
    have hjson : Unescaped s.toJson.pretty := by
      intro hmem
      rw [Json.pretty, String.toList_ofList] at hmem
      rcases Json.onLines_prettyChars 0 s.toJson _ hmem with hfeed | hprintable
      · exact absurd hfeed (by decide)
      · exact absurd hprintable (by decide)
    simp +decide [document, plainText, Render.json, hjson]
  | compact =>
    refine Document.unescaped_flatMap fun r hr => ?_
    have hfile := (h r hr).filename
    have herror : Unescaped (r.error.getD "unknown") := by
      cases hnone : r.error with
      | none => decide
      | some e => exact (h r hr).error e hnone
    have htext : Unescaped (compactText r) := by
      unfold compactText
      split_ifs <;> simp +decide [hfile, herror]
    simp [styled, htext]

/-! ### Colours are shown -/

theorem Document.escape_mem_coloured {d : Document} {span : Span} (hspan : span ∈ d)
    (hstyle : span.style.isSome) :
    '\x1b' ∈ d.coloured.toList := by
  obtain ⟨style, hstyle⟩ := Option.isSome_iff_exists.1 hstyle
  rw [coloured, String.toList_ofList, List.mem_flatMap]
  refine ⟨span, hspan, ?_⟩
  simp [Span.coloured, hstyle, Style.opening]

theorem Document.Unescaped.escape_notMem_plain {d : Document} (h : d.Unescaped) :
    '\x1b' ∉ d.plain.toList := by
  rw [plain, String.toList_ofList, List.mem_flatMap]
  rintro ⟨span, hspan, hmem⟩
  exact h span hspan hmem

theorem Render.exists_styled_text (verbose : Bool) {s : ScanReport} (hs : s.reports ≠ []) :
    ∃ span ∈ Render.text verbose s, span.style.isSome := by
  have hrule (c : Colour) : ∃ span ∈ rule c, span.style.isSome := ⟨_, List.mem_cons_self, rfl⟩
  unfold Render.text
  by_cases hmany : 1 < s.reports.length
  · obtain ⟨span, hspan, hstyle⟩ := hrule .magenta
    refine ⟨span, ?_, hstyle⟩
    rw [if_pos hmany]
    simp [summary, hspan]
  · obtain ⟨r, rs, hreports⟩ := List.exists_cons_of_ne_nil hs
    obtain ⟨span, hspan, hstyle⟩ := hrule .blue
    refine ⟨span, ?_, hstyle⟩
    rw [if_neg hmany, shownReports, if_neg hmany, hreports]
    simp [block, blockHead, hspan]

theorem OutputFormat.exists_styled (f : OutputFormat) (hf : f ≠ .json) (verbose : Bool)
    {s : ScanReport} (hs : s.reports ≠ []) : ∃ span ∈ f.document verbose s, span.style.isSome := by
  cases f with
  | text => exact Render.exists_styled_text verbose hs
  | json => exact absurd rfl hf
  | compact =>
    obtain ⟨r, rs, hreports⟩ := List.exists_cons_of_ne_nil hs
    refine ⟨styled (colourOf (compactColour r)) (compactText r), ?_, rfl⟩
    rw [document, Render.compact, hreports]
    simp [lineOf]

theorem OutputFormat.render_eq_iff (f : OutputFormat) (verbose : Bool) {s : ScanReport}
    (h : s.Unescaped) :
    f.render verbose true s = f.render verbose false s ↔ f = .json ∨ s.reports = [] := by
  constructor
  · intro heq
    by_contra hnot
    obtain ⟨hf, hs⟩ := not_or.1 hnot
    obtain ⟨span, hspan, hstyle⟩ := f.exists_styled hf verbose hs
    refine (f.unescaped_document verbose h).escape_notMem_plain ?_
    have hcoloured := Document.escape_mem_coloured hspan hstyle
    have hshown : (f.document verbose s).coloured = (f.document verbose s).plain := heq
    rwa [hshown] at hcoloured
  · rintro (rfl | hs)
    · rfl
    · have hnothing : ∀ f ≠ OutputFormat.json, f.document verbose s = [] := by
        intro f hf
        cases f with
        | text => simp [document, Render.text, shownReports, hs]
        | json => exact absurd rfl hf
        | compact => simp [document, Render.compact, hs]
      by_cases hf : f = .json
      · rw [hf]
        rfl
      · rw [render, render, hnothing f hf]
        rfl

/-- **Colours add nothing but colours.** Without the control sequences the coloured form of a scan
is the plain form. -/
theorem unstyled_render (f : OutputFormat) (verbose : Bool) (s : ScanReport) (h : s.Unescaped) :
    unstyled (f.render verbose true s).toList = (f.render verbose false s).toList ∧
      (f.render verbose true s = f.render verbose false s ↔ f = .json ∨ s.reports = []) :=
  ⟨(f.unescaped_document verbose h).unstyled_coloured, f.render_eq_iff verbose h⟩

/-- A report with a finding of the worst kind, and one of a source that could not be analyzed. -/
def alarmedScan : ScanReport :=
  ⟨[⟨"evil.py", [⟨"Detector", .critical, "Call to dangerous function: eval", 3, 4, "eval"⟩],
    Double.ofNat 2,
      .success, none⟩,
    ⟨"old.py", [], Double.zero, .error, some "invalid syntax (line 1, column 0)"⟩]⟩

theorem unescaped_alarmedScan : alarmedScan.Unescaped := by
  intro r hr
  simp only [alarmedScan, List.mem_cons, List.not_mem_nil, or_false] at hr
  rcases hr with rfl | rfl
  · refine ⟨by decide, ?_, by simp⟩
    intro f hf
    rw [List.mem_singleton.1 hf]
    exact ⟨by decide, by decide, by decide⟩
  · refine ⟨by decide, by simp, ?_⟩
    rintro e ⟨⟩
    decide

theorem unstyled_render_alarmedScan :
    unstyled (OutputFormat.text.render true true alarmedScan).toList =
        (OutputFormat.text.render true false alarmedScan).toList ∧
      OutputFormat.text.render true true alarmedScan ≠
        OutputFormat.text.render true false alarmedScan := by
  obtain ⟨hplain, hsame⟩ := unstyled_render .text true alarmedScan unescaped_alarmedScan
  refine ⟨hplain, fun heq => ?_⟩
  rcases hsame.1 heq with hf | hs
  · cases hf
  · cases hs

end PythonAudit
