import PythonAudit.File.Path
import PythonAudit.Number.Decimal
import PythonAudit.Render.Style
import PythonAudit.Report.Scan

/-!
# Reports to read

A block for each report: what file it is, its risk, and its findings with their places. When there
are two or more reports, those of clean files are left out and a summary follows.
-/

namespace PythonAudit

namespace Render

/-- A style of bold text in a colour. -/
def boldIn (c : Colour) : Style := { bold := true, foreground := some c }

/-- A style of text in a colour. -/
def colourOf (c : Colour) : Style := { foreground := some c }

/-- Text that stands back. -/
def dimmed : Style := { dimmed := true }

/-- A line of signs across the page. -/
def rule (c : Colour) : Document :=
  lineOf [styled (colourOf c) (String.ofList (List.replicate 70 '='))]

/-- A line with nothing on it. -/
def blankLine : Document := lineOf []

/-- A line of plain text. -/
def textLine (text : String) : Document := lineOf [plainText text]

/-- Text filled up with blanks on its right. -/
def padRight (width : Nat) (text : String) : String :=
  text ++ String.ofList (List.replicate (width - text.length) ' ')

/-- Text filled up with blanks on its left. -/
def padLeft (width : Nat) (text : String) : String :=
  String.ofList (List.replicate (width - text.length) ' ') ++ text

/-- The name of a risk level in its colour. -/
def levelLabel : RiskLevel → Span
  | .low => styled (boldIn .green) "LOW"
  | .medium => styled (boldIn .yellow) "MEDIUM"
  | .high => styled (boldIn .red) "HIGH"

/-- How the label of a severity is shown. -/
def severityStyle : Severity → Style
  | .critical => { bold := true, background := some .red, foreground := some .white }
  | .high => boldIn .red
  | .medium => boldIn .yellow
  | .low => colourOf .blue

/-- The name of a severity in its colour. -/
def severityLabel (s : Severity) : Span :=
  styled (severityStyle s) (" " ++ s.written ++ " ")

/-- A score on the scale from zero to ten. -/
def outOfTen (score : Double) : String := plainLayout.write score ++ "/10"

/-! ### Blocks -/

/-- The head of a block. -/
def blockHead (r : Report) : Document :=
  blankLine ++ rule .blue ++
    lineOf [plainText " ", styled { bold := true } "File:", plainText (" " ++ r.filename)] ++
    rule .blue

/-- The line about an error. -/
def errorLine (e : String) : Document :=
  lineOf [plainText " ", styled (boldIn .red) "Error:", plainText (" " ++ e)]

/-- The counts of the severities, worst first. -/
def countLines (r : Report) : Document :=
  r.severityCounts.reverse.flatMap fun (s, n) =>
    textLine ("   " ++ padRight 9 s.written ++ " " ++ Nat.repr n)

/-- The risk of a report and the number of its findings. -/
def overview (r : Report) : Document :=
  blankLine ++ textLine (" Risk score: " ++ outOfTen r.riskScore) ++
    lineOf [plainText " Risk level: ", levelLabel (RiskLevel.ofScore r.riskScore)] ++
    textLine (" Findings:   " ++ Nat.repr r.findings.length) ++ countLines r

/-- A finding with its number. -/
def findingLines (verbose : Bool) (number : Nat) (f : Finding) : Document :=
  lineOf [plainText (padLeft 4 (Nat.repr number) ++ ". ["), severityLabel f.severity,
    plainText ("] " ++ f.description)] ++
  lineOf [plainText "      ", styled dimmed "-->",
    plainText (" line " ++ Nat.repr f.line ++ ", column " ++ Nat.repr f.column ++ " ("),
    styled (colourOf .cyan) f.detector, plainText ")"] ++
  (if verbose && f.pattern != "" then
    lineOf [plainText "      ", styled dimmed "pattern:", plainText (" " ++ f.pattern)]
  else [])

/-- Findings numbered from a given number on. -/
def numbered (verbose : Bool) : Nat → List Finding → Document
  | _, [] => []
  | n, f :: fs => findingLines verbose n f ++ numbered verbose (n + 1) fs

/-- The line about a clean file. -/
def cleanLine : Document :=
  lineOf [plainText " ", styled (boldIn .green) "✓", plainText " No malicious patterns found."]

/-- The risk of a report and its findings. -/
def details (verbose : Bool) (r : Report) : Document :=
  overview r ++ blankLine ++
    (if r.findings.isEmpty then cleanLine else numbered verbose 1 r.findings)

/-- The block of a report. -/
def block (verbose : Bool) (r : Report) : Document :=
  blockHead r ++
    match r.error with
    | none => details verbose r
    | some e =>
      errorLine e ++
        (if r.findings.isEmpty then []
        else lineOf [plainText " ", styled dimmed "Token-level findings:"] ++ details verbose r)

/-! ### Summary -/

/-- A line about one of the riskiest files. -/
def riskyLine (r : Report) : Document :=
  let name := (Path.fileName? r.filename).getD r.filename
  let colour := if RiskLevel.ofScore r.riskScore = .high then Colour.red else .yellow
  lineOf [styled (colourOf colour) ("   - " ++ name ++ ": " ++ outOfTen r.riskScore ++ " (" ++
    Nat.repr r.findings.length ++ " findings)")]

/-- The riskiest files. -/
def riskyLines (rs : List Report) : Document :=
  if rs.isEmpty then []
  else blankLine ++ lineOf [plainText " ", styled (boldIn .red) "Riskiest files:"] ++
    rs.flatMap riskyLine

/-- The summary of a scan. -/
def summary (s : ScanReport) : Document :=
  blankLine ++ rule .magenta ++ lineOf [plainText " ", styled { bold := true } "Summary"] ++
    rule .magenta ++
    textLine (" Files analyzed:      " ++ Nat.repr s.reports.length) ++
    textLine (" Total findings:      " ++ Nat.repr s.totalFindings) ++
    textLine (" Files with findings: " ++ Nat.repr s.filesWithFindings) ++
    textLine (" Average risk:        " ++ writeFixed 1 s.averageRisk ++ "/10") ++
    (if s.failures = 0 then [] else textLine (" Files with errors:   " ++ Nat.repr s.failures)) ++
    riskyLines (s.riskiest 3)

/-- The report of a clean file. -/
def isClean (r : Report) : Bool := r.isSuccess && r.findings.isEmpty

/-- The reports that get a block. -/
def shownReports (s : ScanReport) : List Report :=
  if 1 < s.reports.length then s.reports.filter fun r => !isClean r else s.reports

/-- A scan to read. -/
def text (verbose : Bool) (s : ScanReport) : Document :=
  (shownReports s).flatMap (block verbose) ++ (if 1 < s.reports.length then summary s else [])

end Render

end PythonAudit
