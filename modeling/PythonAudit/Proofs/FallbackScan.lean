import PythonAudit.Proofs.ReportInvariant
import PythonAudit.Proofs.TokenPlace
import PythonAudit.Proofs.WeightScale

/-!
# Names among the tokens of a source that cannot be parsed

* `Fallback.Marks` says what the finding for a token is, and `forall₂_marks_scan` that there is one
  for every name on the list before the first fault, in the order of the tokens;
* `Fallback.Ordered` is what is known of the tokens of a text, and `pairwise_place_scan` says that
  findings are then in the order of their places;
* `Fallback.exactWeight_scan` gives the weight of the findings, so their score is known from their
  number;
* `scan_of_tokens` puts this together.
-/

namespace PythonAudit

open Strict

namespace Fallback

/-- The token is a name on the list. -/
def listed (t : Spanned) : Bool :=
  match t.token with
  | .name n => denylist.contains n
  | _ => false

/-- The finding for a token that is a name on the list. Its place is the one that is reached by
counting the characters before the token, with rows from one. -/
def Marks (source : String) (t : Spanned) (f : Finding) : Prop :=
  ∃ n before after, t.token = .name n ∧ n ∈ denylist ∧ source = before ++ after ∧
    before.utf8ByteSize = t.start ∧
    f = ⟨name, .high, "Dangerous identifier found despite syntax error: " ++ n,
      (Point.origin.stepAll before.toList).row + 1, (Point.origin.stepAll before.toList).column, n⟩

/-- The names among some tokens start at ascending offsets between the characters of a text, before
its end. -/
structure Ordered (source : String) (ts : List Spanned) : Prop where
  ascending : (names ts).Pairwise fun t u => t.start < u.start
  inside : ∀ t ∈ names ts, String.Pos.Raw.IsValid source ⟨t.start⟩ ∧ t.start < source.utf8ByteSize

theorem ordered_lex (source : String) : Ordered source (upToFault (lex source.toList)) where
  ascending := (names_lex source).1
  inside := (names_lex source).2

/-! ### Findings and tokens -/

theorem scan_eq (source : String) (stream : Stream) :
    scan source stream = (upToFault stream).filterMap (finding? source) := by
  induction stream with
  | nil => rfl
  | cons item rest ih =>
    cases item with
    | error e => rfl
    | ok t =>
      rw [scan, ih, upToFault, List.filterMap_cons]
      cases finding? source t <;> rfl

theorem isSome_finding? (source : String) (t : Spanned) :
    (finding? source t).isSome = listed t := by
  unfold finding? listed
  cases t.token
  case name n =>
    dsimp only
    cases denylist.contains n <;> rfl
  all_goals rfl

theorem isName_of_listed {t : Spanned} (h : listed t = true) : t.token.isName = true := by
  unfold listed at h
  split at h
  next n hn =>
    rw [hn]
    rfl
  next => cases h

/-- Only names give findings. -/
theorem scan_eq_names (source : String) (stream : Stream) :
    scan source stream = (names (upToFault stream)).filterMap (finding? source) := by
  rw [scan_eq, names, List.filterMap_filter]
  refine List.filterMap_congr fun t _ => ?_
  split_ifs with hname
  · rfl
  · rw [← Option.not_isSome_iff_eq_none, isSome_finding?]
    exact mt isName_of_listed hname

theorem exists_of_finding? {source : String} {t : Spanned} {f : Finding}
    (h : finding? source t = some f) :
    ∃ n, t.token = .name n ∧ n ∈ denylist ∧
      f = ⟨name, .high, "Dangerous identifier found despite syntax error: " ++ n,
        (Text.locate source t.start).1,
        (Text.locate source t.start).2, n⟩ := by
  unfold finding? at h
  split at h
  next n hn =>
    split_ifs at h with hlisted
    exact ⟨n, hn, List.contains_iff_mem.1 hlisted, (Option.some.inj h).symm⟩
  next => cases h

theorem marks_of_finding? {source : String} {t : Spanned} {f : Finding}
    (hvalid : String.Pos.Raw.IsValid source ⟨t.start⟩) (h : finding? source t = some f) :
    Marks source t f := by
  obtain ⟨n, htoken, hlisted, rfl⟩ := exists_of_finding? h
  obtain ⟨before, after, hsource, hsize⟩ := Text.exists_parts (Or.inl hvalid)
  have hplace := Text.locate_parts hsource hsize
  refine ⟨n, before, after, htoken, hlisted, hsource, ?_, ?_⟩
  · rw [hsize, Nat.min_eq_left hvalid.le_utf8ByteSize]
  · rw [hplace, Text.stepAll_origin, Text.byteSize_toList, Nat.add_comm]

theorem forall₂_filterMap_finding? (source : String) (ts : List Spanned) :
    List.Forall₂ (fun t f => finding? source t = some f) (ts.filter listed)
      (ts.filterMap (finding? source)) := by
  induction ts with
  | nil => exact .nil
  | cons t ts ih =>
    have hlisted := isSome_finding? source t
    cases h : finding? source t with
    | none =>
      rw [h] at hlisted
      rwa [List.filterMap_cons_none h, List.filter_cons_of_neg (by rw [← hlisted]; decide)]
    | some f =>
      rw [h] at hlisted
      rw [List.filterMap_cons_some h, List.filter_cons_of_pos hlisted.symm]
      exact .cons h ih

theorem forall₂_marks_scan {source : String} {stream : Stream}
    (h : Ordered source (upToFault stream)) :
    List.Forall₂ (Marks source) ((upToFault stream).filter listed) (scan source stream) := by
  have hvalid : ∀ t ∈ (upToFault stream).filter listed,
      String.Pos.Raw.IsValid source ⟨t.start⟩ := by
    intro t ht
    obtain ⟨hmem, hlisted⟩ := List.mem_filter.1 ht
    exact (h.inside t (List.mem_filter.2 ⟨hmem, isName_of_listed hlisted⟩)).1
  have hfindings := forall₂_filterMap_finding? source (upToFault stream)
  rw [← scan_eq] at hfindings
  exact ((List.forall₂_and_left _ _).2 ⟨hvalid, hfindings⟩).imp fun _ _ hf =>
    marks_of_finding? hf.1 hf.2

/-- The fault that ends a search leaves no trace, and neither does what follows it. -/
theorem scan_append_error (source : String) (ts : List Spanned) (e : Located) (rest : Stream) :
    scan source (ts.map .ok ++ .error e :: rest) = scan source (ts.map .ok) := by
  rw [scan_eq, scan_eq, upToFault_append, upToFault_map_ok]
  exact congrArg _ (List.append_nil ts)

/-! ### Places, order and score -/

theorem pairwise_place_scan {source : String} {stream : Stream}
    (h : Ordered source (upToFault stream)) :
    (scan source stream).Pairwise fun f g => toLex (f.line, f.column) <
      toLex (g.line, g.column) := by
  rw [scan_eq_names, List.pairwise_filterMap]
  refine h.ascending.imp_of_mem ?_
  intro t u ht hu hlt f hf g hg
  obtain ⟨_, -, -, rfl⟩ := exists_of_finding? hf
  obtain ⟨_, -, -, rfl⟩ := exists_of_finding? hg
  exact Text.locate_lt_locate (h.inside t ht).1 (h.inside u hu).1 hlt

/-- Findings in the order of their places are in the order of their lines. -/
theorem findings_failure_of_pairwise {fs : List Finding}
    (h : fs.Pairwise fun f g => toLex (f.line, f.column) < toLex (g.line, g.column))
    (label error : String) :
    (Report.failure label fs error).findings = fs := by
  refine Finding.sorted_of_pairwise (h.imp ?_)
  intro f g hfg
  rcases Prod.Lex.toLex_lt_toLex.1 hfg with hline | ⟨hline, -⟩
  · exact hline.le
  · exact hline.le

theorem exactWeight_scan (source : String) (stream : Stream) :
    Finding.exactWeight (scan source stream) = 7 * (scan source stream).length := by
  have hweights : (scan source stream).map (fun f => f.severity.weight) =
      List.replicate (scan source stream).length 7 := by
    rw [List.eq_replicate_iff, List.length_map]
    refine ⟨rfl, ?_⟩
    intro w hw
    obtain ⟨f, hf, rfl⟩ := List.mem_map.1 hw
    rw [(reported_of_mem_scan hf).severity]
    rfl
  rw [Finding.exactWeight, hweights, List.sum_replicate, smul_eq_mul, Nat.mul_comm]

/-- A text with a string that is not closed. -/
def openString : String := "eval\nexec '"

/-- The tokens of `openString`, with one more name after the fault. -/
def openStringTokens : Stream :=
  [.ok ⟨.name "eval", 0, 4⟩, .ok ⟨.newline, 4, 5⟩, .ok ⟨.name "exec", 5, 9⟩,
    .error ⟨.unexpectedString, 11⟩,
    .ok ⟨.name "eval", 0, 4⟩]

theorem ordered_openString : Ordered openString (upToFault openStringTokens) where
  ascending := by decide
  inside := by
    have hnames : names (upToFault openStringTokens) =
        [⟨.name "eval", 0, 4⟩, ⟨.name "exec", 5, 9⟩] := rfl
    rw [hnames, List.forall_mem_cons, List.forall_mem_singleton]
    refine ⟨⟨?_, by decide⟩, ?_, by decide⟩
    · exact String.Pos.Raw.isValid_iff_exists_append.2 ⟨"", "eval\nexec '", rfl, rfl⟩
    · exact String.Pos.Raw.isValid_iff_exists_append.2 ⟨"eval\n", "exec '", rfl, rfl⟩

end Fallback

end PythonAudit
