import PythonAudit.Proofs.Printed
import PythonAudit.Render.Format

/-!
# One line for each report

The short form of a scan is meant to have one line for each report. The name of a file and the text
of an error are written into the line as they are, so this holds only for some of them.

* `OneLineEach rs text` says what is meant;
* `count_feed_compact` counts the line feeds of the short form, and `oneLineEach_iff` says for which
  reports it has one line for each;
* `not_oneLineEach_multilineToken` is a report of a real source for which it has not.
-/

namespace PythonAudit

namespace Render

open Text

/-- How the line of a report begins: the file, the number of its findings and its score. -/
def lineHead (r : Report) : String :=
  r.filename ++ ": " ++ Nat.repr r.findings.length ++ " findings, risk " ++ outOfTen r.riskScore

/-- The text has one line for each report, in order, which begins as the line of that report
does. -/
structure OneLineEach (rs : List Report) (text : List Char) : Prop where
  feeds : text.count '\n' = rs.length
  lines : ∃ lines : List (List Char), text = lines.flatMap (· ++ ['\n']) ∧
    List.Forall₂ (fun r line => '\n' ∉ line ∧ (lineHead r).toList <+: line) rs lines

/-- The texts that are written into the line of a report as they are. -/
def freeTexts (r : Report) : List String :=
  r.filename :: (if r.isSuccess then [] else r.error.toList)

/-- The line feeds of a text. -/
def feeds (text : String) : Nat := text.toList.count '\n'

/-- The line feeds of the texts that are written into the line of a report. -/
def innerFeeds (r : Report) : Nat := ((freeTexts r).map feeds).sum

theorem feeds_append (a b : String) : feeds (a ++ b) = feeds a + feeds b := by
  rw [feeds, String.toList_append, List.count_append]
  rfl

theorem feeds_of_printable {text : String} (h : Printable text.toList) : feeds text = 0 :=
  List.count_eq_zero_of_not_mem (h.notMem (by decide))

theorem innerFeeds_eq_zero_iff (r : Report) :
    innerFeeds r = 0 ↔ ∀ text ∈ freeTexts r, '\n' ∉ text.toList := by
  simp [innerFeeds, feeds, List.sum_eq_zero_iff, List.count_eq_zero]

/-! ### The lines -/

theorem compactText_eq (r : Report) :
    compactText r = lineHead r ++
      if r.isSuccess then "" else " (error: " ++ r.error.getD "unknown" ++ ")" := rfl

theorem lineHead_prefix (r : Report) : (lineHead r).toList <+: (compactText r).toList := by
  rw [compactText_eq, String.toList_append]
  exact List.prefix_append _ _

/-- Numbers and fixed words bring no line feeds. -/
theorem feeds_lineHead (r : Report) : feeds (lineHead r) = feeds r.filename := by
  have hnumber := feeds_of_printable (printable_repr r.findings.length)
  have hscore := feeds_of_printable (plainLayout.printable_write (by decide) r.riskScore)
  have hcolon : feeds ": " = 0 := rfl
  have hrisk : feeds " findings, risk " = 0 := rfl
  have hten : feeds "/10" = 0 := rfl
  simp only [lineHead, outOfTen, feeds_append, hnumber, hscore, hcolon, hrisk, hten, Nat.add_zero]

/-- So all line feeds inside a line come from the free texts. -/
theorem feeds_compactText (r : Report) : feeds (compactText r) = innerFeeds r := by
  rw [compactText_eq, feeds_append, feeds_lineHead, innerFeeds, freeTexts]
  split_ifs
  · rfl
  · have hopen : feeds " (error: " = 0 := rfl
    have hclose : feeds ")" = 0 := rfl
    cases r.error with
    | none => rfl
    | some e => simp [feeds_append, hopen, hclose]

theorem toList_compact (s : ScanReport) :
    (compact s).plain.toList = (s.reports.map fun r => (compactText r).toList).flatMap
      (· ++ ['\n']) := by
  rw [Document.plain, String.toList_ofList, compact, List.flatMap_assoc, List.flatMap_map]
  rfl

theorem count_feed_lines (lines : List (List Char)) :
    (lines.flatMap (· ++ ['\n'])).count '\n' = lines.length + (lines.map (·.count '\n')).sum := by
  induction lines with
  | nil => rfl
  | cons line lines ih =>
    simp only [List.flatMap_cons, List.count_append, List.count_singleton_self, ih,
      List.length_cons, List.map_cons, List.sum_cons]
    omega

theorem count_feed_compact (s : ScanReport) :
    (compact s).plain.toList.count '\n' = s.reports.length + (s.reports.map innerFeeds).sum := by
  rw [toList_compact, count_feed_lines, List.length_map, List.map_map]
  congr 2
  exact List.map_congr_left fun r _ => feeds_compactText r

theorem oneLineEach_iff (s : ScanReport) :
    OneLineEach s.reports (compact s).plain.toList ↔
      ∀ r ∈ s.reports, ∀ text ∈ freeTexts r, '\n' ∉ text.toList := by
  have hsum : (s.reports.map innerFeeds).sum = 0 ↔
      ∀ r ∈ s.reports, ∀ text ∈ freeTexts r, '\n' ∉ text.toList := by
    simp [List.sum_eq_zero_iff, innerFeeds_eq_zero_iff]
  constructor
  · intro h
    have hfeeds := h.feeds
    rw [count_feed_compact] at hfeeds
    exact hsum.1 (by omega)
  · intro h
    refine ⟨by rw [count_feed_compact, hsum.2 h, Nat.add_zero], _, toList_compact s, ?_⟩
    rw [List.forall₂_map_right_iff, List.forall₂_same]
    intro r hr
    have hnone : feeds (compactText r) = 0 := by
      rw [feeds_compactText, innerFeeds_eq_zero_iff]
      exact h r hr
    exact ⟨List.count_eq_zero.1 hnone, lineHead_prefix r⟩

/-- **The short form has one line for each report exactly when no file name and no error text in it
has a line feed.** -/
theorem compact_one_line_each_iff (verbose : Bool) (s : ScanReport) :
    (OutputFormat.compact.render verbose false s).toList.count '\n' =
        s.reports.length + (s.reports.map innerFeeds).sum ∧
      (OneLineEach s.reports (OutputFormat.compact.render verbose false s).toList ↔
        ∀ r ∈ s.reports, ∀ text ∈ freeTexts r, '\n' ∉ text.toList) :=
  ⟨count_feed_compact s, oneLineEach_iff s⟩

/-- The report of a source that prints a text of two lines without parentheses: the complaint quotes
the text. -/
def multilineScan : ScanReport :=
  ⟨[⟨"old.py", [], Double.zero, .error,
    some "invalid syntax. Got unexpected token \"\"\"a\nb\"\"\" (line 1, column 6)"⟩]⟩

theorem not_oneLineEach_multilineToken :
    ¬ OneLineEach multilineScan.reports
      (OutputFormat.compact.render false false multilineScan).toList := by
  intro h
  have hfeeds := h.feeds
  have hcount : (OutputFormat.compact.render false false multilineScan).toList.count '\n' = 2 :=
    count_feed_compact multilineScan
  rw [hcount] at hfeeds
  exact absurd hfeeds (by decide)

end Render

end PythonAudit
