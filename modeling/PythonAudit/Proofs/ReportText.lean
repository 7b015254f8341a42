import PythonAudit.Proofs.JsonText
import PythonAudit.Proofs.ReportInvariant
import PythonAudit.Render.Format

/-!
# Reports are read back from JSON

* `Finding.ofJson?_toJson`, `Report.ofJson?_toJson` and `ScanReport.ofJson?_toJson`: nothing is lost
  on the way to a JSON value and back;
* `Json.legible_riskScore`: every score is written as digits around a point that stand for it;
* `scan_reports_read_back` says that the text of a scan gives the scan back.
-/

namespace PythonAudit

open Json

/-! ### From values to JSON values and back -/

theorem Severity.ofWritten?_written (s : Severity) : Severity.ofWritten? s.written = some s := by
  cases s <;> decide

theorem Status.ofWritten?_written (s : Status) : Status.ofWritten? s.written = some s := by
  cases s <;> decide

theorem Finding.ofJson?_toJson (f : Finding) : Finding.ofJson? f.toJson = some f := by
  simp [Finding.ofJson?, Finding.toJson, record?, field?, string?, natural?, choice?,
    Severity.ofWritten?_written]

theorem mapM_map_eq_some {α β : Type} {f : α → β} {g : β → Option α} (xs : List α)
    (h : ∀ x, g (f x) = some x) :
    (xs.map f).mapM g = some xs := by
  induction xs with
  | nil => rfl
  | cons x xs ih => simp [h, ih]

theorem Finding.listOfJson?_map (fs : List Finding) :
    Finding.listOfJson? (.array (fs.map Finding.toJson)) = some fs :=
  mapM_map_eq_some fs Finding.ofJson?_toJson

theorem Report.ofJson?_toJson (r : Report) : Report.ofJson? r.toJson = some r := by
  obtain ⟨filename, findings, riskScore, status, error⟩ := r
  cases error <;>
    simp [Report.ofJson?, Report.toJson, record?, field?, string?, number?, choice?,
      optionalString?, Finding.listOfJson?_map, Status.ofWritten?_written]

theorem ScanReport.ofJson?_toJson (s : ScanReport) : ScanReport.ofJson? s.toJson = some s := by
  simp [ScanReport.ofJson?, ScanReport.toJson, array?,
    mapM_map_eq_some s.reports Report.ofJson?_toJson]

/-! ### The numbers of a report -/

/-- Fifths up to ten are written with one digit after the point, and the digits stand for them. -/
theorem written_fifths : ∀ k ≤ 50,
    writeNumber (Double.fifths k) =
      Nat.toDigits 10 (k / 5) ++ '.' :: Nat.toDigits 10 (2 * (k % 5)) ∧
      Decimal.toDouble
        ⟨digitsOf (Nat.toDigits 10 (k / 5) ++ Nat.toDigits 10 (2 * (k % 5))), -1⟩ =
          Double.fifths k := by
  decide +kernel

theorem digits_of_lt_ten {n : Nat} (h : n < 10) :
    (Nat.toDigits 10 n).length = 1 ∧ ∀ c ∈ Nat.toDigits 10 n, c.isDigit = true :=
  ⟨by rw [Nat.toDigits_of_lt_base h, List.length_singleton], (isWhole_toDigits n).digits⟩

theorem Json.legible_riskScore (fs : List Finding) : Legible (.number (Finding.riskScore fs)) := by
  rw [Finding.riskScore_eq]
  generalize hk : min (Finding.totalWeight fs).toNat 50 = k
  have hle : k ≤ 50 := by omega
  obtain ⟨hwritten, hread⟩ := written_fifths k hle
  obtain ⟨hplace, hdigits⟩ := digits_of_lt_ten (show 2 * (k % 5) < 10 by omega)
  refine .number (hwritten ▸ .decimal (isWhole_toDigits _) Nat.toDigits_ne_nil hdigits ?_)
  simp only [makeNumber?, hplace, Option.getD_none, Nat.cast_one, zero_sub, hread,
    (Double.fifths_bounds k hle).1]
  simp

/-- Line and column fit into 64 bits. -/
def Finding.Placed (f : Finding) : Prop := f.line < 2 ^ 64 ∧ f.column < 2 ^ 64

theorem Finding.Placed.legible {f : Finding} (h : f.Placed) : Legible f.toJson := by
  refine .object ?_
  simp [Legible.string, Legible.natural h.1, Legible.natural h.2]

/-- A report that was built or analyzed and perhaps filtered, with findings whose places fit into 64
bits. -/
structure Report.Issued (r : Report) : Prop where
  filtered : Report.Filtered Report.Built r
  placed : ∀ f ∈ r.findings, f.Placed

theorem Report.Issued.legible {r : Report} (h : r.Issued) : Legible r.toJson := by
  have hfindings : ∀ j ∈ r.findings.map Finding.toJson, Legible j := by
    intro j hj
    obtain ⟨f, hf, rfl⟩ := List.mem_map.1 hj
    exact (h.placed f hf).legible
  have hscore : Legible (.number r.riskScore) :=
    h.filtered.consistent.score ▸ legible_riskScore r.findings
  refine .object ?_
  simp [Legible.string, Legible.array hfindings, hscore]

theorem ScanReport.legible {s : ScanReport} (h : ∀ r ∈ s.reports, r.Issued) : Legible s.toJson := by
  refine .array fun j hj => ?_
  obtain ⟨r, hr, rfl⟩ := List.mem_map.1 hj
  exact (h r hr).legible

/-! ### The text of a scan -/

theorem OutputFormat.render_json (verbose colour : Bool) (s : ScanReport) :
    OutputFormat.json.render verbose colour s = Render.json s := by
  cases colour <;>
    simp [OutputFormat.render, OutputFormat.document, Document.shown, Document.plain,
      Document.coloured, Span.plain, Span.coloured, plainText]

theorem ScanReport.ofText?_json {s : ScanReport} (h : ∀ r ∈ s.reports, r.Issued) :
    ScanReport.ofText? (Render.json s) = some s := by
  rw [ScanReport.ofText?, Render.json, parse?_pretty (ScanReport.legible h), Option.bind_some,
    ScanReport.ofJson?_toJson]

/-- **Reports survive their JSON.** However reports are built, analyzed and filtered, and whatever
characters their texts have, a scan of them is read back from its JSON text as it was, so different
scans have different texts. -/
theorem scan_reports_read_back (s : ScanReport) (hs : ∀ r ∈ s.reports, r.Issued)
    (verbose colour : Bool) :
    ScanReport.ofText? (OutputFormat.json.render verbose colour s) = some s ∧
      ∀ t : ScanReport, (∀ r ∈ t.reports, r.Issued) → ∀ verbose' colour',
        OutputFormat.json.render verbose' colour' t =
          OutputFormat.json.render verbose colour s → t = s := by
  simp only [OutputFormat.render_json]
  refine ⟨ScanReport.ofText?_json hs, fun t ht _ _ hsame => ?_⟩
  have hread : some t = some s := by
    rw [← ScanReport.ofText?_json ht, hsame, ScanReport.ofText?_json hs]
  exact Option.some.inj hread

/-- Quotes, backslashes, control characters and characters of all lengths, in a report with an error
and in one without. -/
def awkwardScan : ScanReport :=
  ⟨[Report.success "a\"b\\c.py"
    [⟨"\x00\x1f", .critical, "\t\x08\x0c\x1b[0m", 3, 2 ^ 64 - 1, "é\u2028𝔘\x7f"⟩],
    Report.failure "" [] "\r\n/\\u0041"]⟩

theorem awkwardScan_read_back :
    (∀ r ∈ awkwardScan.reports, r.Issued) ∧
      awkwardScan.reports.map (·.error) = [none, some "\r\n/\\u0041"] ∧
      ScanReport.ofText? (OutputFormat.json.render false true awkwardScan) = some awkwardScan ∧
      OutputFormat.json.render false true ⟨[]⟩ ≠
        OutputFormat.json.render false true awkwardScan := by
  have hissued : ∀ r ∈ awkwardScan.reports, r.Issued := by
    intro r hr
    simp only [awkwardScan, List.mem_cons, List.not_mem_nil, or_false] at hr
    rcases hr with rfl | rfl
    · refine ⟨.of (.success _ _), fun f hf => ?_⟩
      obtain rfl := List.mem_singleton.1 (Report.mem_findings_build.1 hf)
      exact ⟨by norm_num, by norm_num⟩
    · exact ⟨.of (.failure _ _ _), fun f hf =>
        absurd (Report.mem_findings_build.1 hf) List.not_mem_nil⟩
  obtain ⟨hread, hinjective⟩ := scan_reports_read_back awkwardScan hissued false true
  refine ⟨hissued, rfl, hread, fun hsame => ?_⟩
  have hempty := hinjective ⟨[]⟩ (by simp) false true hsame
  simp [awkwardScan] at hempty

end PythonAudit
