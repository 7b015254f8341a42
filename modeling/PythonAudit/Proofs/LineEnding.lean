import PythonAudit.Proofs.EscapeScan

/-!
# Literals in texts with carriage returns

A source text may end its lines with a carriage return and a line feed. A literal keeps both
characters, and a backslash before them continues no line.

* `withReturns` ends the lines of a text in this way;
* `Escape.lineEnd_or_forall_ne`: apart from a line end after a backslash there is no line end in an
  escape, so `withReturns` leaves the others alone (`Escape.head_of_withReturns`);
* `Piece.returned` is what a piece becomes, and `Pieces.unescape_withReturns` says that every piece
  becomes that;
* `decode_withReturns_eq_iff` says that a literal denotes the same text as before exactly when it
  has no line feed;
* `decode_withReturns` collects this for raw and other literals.
-/

namespace PythonAudit

namespace Literal

/-! ### Line ends -/

/-- A line feed with a carriage return before it, and every other character as it is. -/
def withReturn (c : Char) : List Char := if c = '\n' then ['\r', '\n'] else [c]

/-- The text with a carriage return before every line feed. -/
def withReturns (text : List Char) : List Char := text.flatMap withReturn

@[simp] theorem withReturns_nil : withReturns [] = [] := rfl

theorem withReturns_cons_lineFeed (r : List Char) :
    withReturns ('\n' :: r) = '\r' :: '\n' :: withReturns r := rfl

theorem withReturns_cons_of_ne {c : Char} (h : c ≠ '\n') (r : List Char) :
    withReturns (c :: r) = c :: withReturns r := by
  simp [withReturns, withReturn, h]

theorem withReturns_append (text r : List Char) :
    withReturns (text ++ r) = withReturns text ++ withReturns r :=
  List.flatMap_append

theorem withReturns_eq_self_iff (text : List Char) : withReturns text = text ↔ '\n' ∉ text := by
  induction text with
  | nil => simp
  | cons c r ih =>
    by_cases hc : c = '\n'
    · subst hc
      simp [withReturns_cons_lineFeed]
    · simp [withReturns_cons_of_ne hc, ih, Ne.symm hc]

/-- Characters that end no line stand at the head of a text whenever they do so with carriage
returns in it. -/
theorem head_of_withReturns_of_ne {cs r : List Char} (hne : ∀ c ∈ cs, c ≠ '\n' ∧ c ≠ '\r')
    (hhead : cs <+: withReturns r) : cs <+: r := by
  induction cs generalizing r with
  | nil => exact List.nil_prefix
  | cons d cs ih =>
    obtain ⟨hd, hcs⟩ := List.forall_mem_cons.1 hne
    cases r with
    | nil => simp at hhead
    | cons c r =>
      by_cases hc : c = '\n'
      · rw [hc, withReturns_cons_lineFeed, List.cons_prefix_cons] at hhead
        exact absurd hhead.1 hd.2
      · rw [withReturns_cons_of_ne hc, List.cons_prefix_cons] at hhead
        exact List.cons_prefix_cons.2 ⟨hhead.1, ih hcs hhead.2⟩

/-! ### Escapes and line ends -/

/-- No digit ends a line. -/
theorem Numeral.forall_ne_lineEnd {base n : Nat} {ds : List Char} (hbase : base ≤ 16)
    (h : Numeral base ds n) :
    ∀ c ∈ ds, c ≠ '\n' ∧ c ≠ '\r' := by
  have hnone : ∀ k < 16, ¬ IsDigit '\n' k ∧ ¬ IsDigit '\r' k := by decide
  intro c hc
  obtain ⟨k, hk, hdigit⟩ := h.isDigit_of_mem hc
  constructor
  · rintro rfl
    exact (hnone k (by omega)).1 hdigit
  · rintro rfl
    exact (hnone k (by omega)).2 hdigit

namespace Escape

variable {body value r : List Char}

/-- A line end after a backslash is an escape, and in no other escape there is a line end. -/
theorem lineEnd_or_forall_ne (h : Escape body value) :
    body = ['\n'] ∨ ∀ c ∈ body, c ≠ '\n' ∧ c ≠ '\r' := by
  cases h with
  | lineEnd => exact Or.inl rfl
  | @letter l c hl =>
    have hletters : ∀ p ∈ letters, p.1 ≠ '\n' ∧ p.1 ≠ '\r' := by decide
    exact Or.inr (by simpa using hletters (l, c) hl)
  | @hexadecimal l c ds hl hds =>
    have hwidths : ∀ p ∈ hexWidths, p.1 ≠ '\n' ∧ p.1 ≠ '\r' := by decide
    exact Or.inr (List.forall_mem_cons.2 ⟨hwidths (l, ds.length) hl, hds.forall_ne_lineEnd le_rfl⟩)
  | octal _ _ hds => exact Or.inr (hds.forall_ne_lineEnd (by decide))

/-- Carriage returns before the line feeds put no new escape at the head of a text. -/
theorem head_of_withReturns (h : Escape body value) (hhead : body <+: withReturns r) :
    body <+: r := by
  rcases h.lineEnd_or_forall_ne with rfl | hne
  · cases r with
    | nil => simp at hhead
    | cons c r =>
      by_cases hc : c = '\n'
      · simp [hc, withReturns_cons_lineFeed] at hhead
      · rw [withReturns_cons_of_ne hc, List.cons_prefix_cons] at hhead
        exact absurd hhead.1.symm hc
  · exact head_of_withReturns_of_ne hne hhead

end Escape

theorem escape?_withReturns_eq_none {r : List Char}
    (h : ∀ body value, Escape body value → ¬ body <+: r) :
    escape? (withReturns r) = none := by
  rw [escape?_eq_none_iff]
  intro body value hescape hhead
  exact h body value hescape (hescape.head_of_withReturns hhead)

/-! ### Pieces and line ends -/

/-- What a piece becomes when every line feed has a carriage return before it. -/
def Piece.returned : Piece → List Char
  | .plain c => withReturn c
  | @Piece.escape body value _ => if body = ['\n'] then ['\\', '\r', '\n'] else value

/-- A backslash before a carriage return stands for itself. -/
theorem unescape_backslash_return (r : List Char) :
    unescape ('\\' :: '\r' :: r) = '\\' :: '\r' :: unescape r := by
  have hnone : escape? ('\r' :: r) = none := rfl
  have hreturn : unescape ('\r' :: r) = '\r' :: unescape r := unescape_cons_of_ne (by decide) r
  rw [unescape, if_pos rfl, hnone, hreturn]

/-- With carriage returns the text is read as the same pieces, each of which becomes what
`Piece.returned` says. -/
theorem Pieces.unescape_withReturns {text : List Char} {ps : List Piece} (h : Pieces text ps) :
    unescape (withReturns text) = ps.flatMap Piece.returned := by
  induction h with
  | nil => rw [withReturns_nil, unescape, List.flatMap_nil]
  | @plain c r ps hno _ ih =>
    rw [List.flatMap_cons, ← ih, Piece.returned, withReturn]
    split_ifs with hc
    · rw [hc, withReturns_cons_lineFeed, unescape_cons_of_ne (by decide),
        unescape_cons_of_ne (by decide)]
      rfl
    · rw [withReturns_cons_of_ne hc]
      by_cases hbackslash : c = '\\'
      · rw [hbackslash, unescape, if_pos rfl, escape?_withReturns_eq_none (hno hbackslash)]
        rfl
      · exact unescape_cons_of_ne hbackslash _
  | @escape body value r ps hescape hlongest _ ih =>
    rw [List.flatMap_cons, ← ih, Piece.returned, withReturns_cons_of_ne (by decide)]
    rcases hescape.lineEnd_or_forall_ne with rfl | hne
    · rw [if_pos rfl, List.singleton_append, withReturns_cons_lineFeed, unescape_backslash_return,
        unescape_cons_of_ne (by decide)]
      rfl
    · have hbody : withReturns body = body :=
        (withReturns_eq_self_iff body).2 fun hmem => (hne _ hmem).1 rfl
      have hlongest' : IsLongest body (body ++ withReturns r) := by
        intro body' value' hescape' hhead
        refine hlongest body' value' hescape' (hescape'.head_of_withReturns ?_)
        rwa [withReturns_append, hbody]
      have hother : body ≠ ['\n'] := by
        rintro rfl
        exact (hne '\n' (List.mem_singleton_self _)).1 rfl
      rw [if_neg hother, withReturns_append, hbody,
        unescape_of_escape? (escape?_of_isLongest hescape hlongest'), List.drop_left]

theorem Piece.length_value_le_returned (p : Piece) : p.value.length ≤ p.returned.length := by
  cases p with
  | plain c =>
    simp only [Piece.value, Piece.returned, withReturn]
    split_ifs <;> simp
  | @escape body value h =>
    have hle := h.length_value_le
    simp only [Piece.value, Piece.returned]
    split_ifs with hline
    · simp only [hline, List.length_singleton] at hle
      simp only [List.length_cons, List.length_nil]
      omega
    · exact le_rfl

/-- A piece with a line feed becomes longer. -/
theorem Piece.length_value_lt_returned {p : Piece} (h : '\n' ∈ p.source) :
    p.value.length < p.returned.length := by
  cases p with
  | plain c =>
    obtain rfl : '\n' = c := by simpa [Piece.source] using h
    decide
  | @escape body value hescape =>
    have hline : body = ['\n'] := by
      have hmem : '\n' ∈ body := by simpa [Piece.source] using h
      rcases hescape.lineEnd_or_forall_ne with hline | hne
      · exact hline
      · exact absurd rfl (hne _ hmem).1
    subst hline
    have hle := hescape.length_value_le
    simp only [Piece.value, Piece.returned, if_pos, List.length_cons, List.length_nil] at hle ⊢
    omega

/-- A text with a line feed becomes longer. -/
theorem length_values_lt_returned {ps : List Piece} (h : '\n' ∈ ps.flatMap Piece.source) :
    (ps.flatMap Piece.value).length < (ps.flatMap Piece.returned).length := by
  obtain ⟨p, hp, hmem⟩ := List.mem_flatMap.1 h
  rw [List.length_flatMap, List.length_flatMap]
  exact List.sum_lt_sum _ _ (fun q _ => q.length_value_le_returned)
    ⟨p, hp, Piece.length_value_lt_returned hmem⟩

/-! ### What a literal denotes -/

/-- A literal denotes the same text with and without carriage returns exactly when it has no line
feed. -/
theorem decode_withReturns_eq_iff (f : Form) (text : String) :
    f.decode (String.ofList (withReturns text.toList)) = f.decode text ↔ '\n' ∉ text.toList := by
  constructor
  · intro heq hmem
    cases hraw : f.raw with
    | true =>
      simp only [Form.decode, hraw, if_true] at heq
      have hsame : withReturns text.toList = text.toList := by
        rw [← String.toList_ofList (l := withReturns text.toList), heq]
      exact (withReturns_eq_self_iff _).1 hsame hmem
    | false =>
      obtain ⟨ps, hps⟩ := exists_pieces text.toList
      have hlt := length_values_lt_returned (hps.source_eq ▸ hmem)
      simp only [Form.decode, hraw, Bool.false_eq_true, if_false, String.toList_ofList] at heq
      rw [← hps.unescape_eq, ← hps.unescape_withReturns, String.ofList_injective heq] at hlt
      exact Nat.lt_irrefl _ hlt
  · intro hnone
    rw [(withReturns_eq_self_iff _).2 hnone, String.ofList_toList]

/-- **A literal keeps the carriage returns of its line ends**, and a backslash before such a line
end stays with them; everything else is read as without carriage returns. -/
theorem decode_withReturns (f : Form) (text : String) :
    (∃ ps, Pieces text.toList ps ∧ f.decode (String.ofList (withReturns text.toList)) =
      String.ofList (if f.raw then withReturns text.toList else ps.flatMap Piece.returned)) ∧
    (f.decode (String.ofList (withReturns text.toList)) = f.decode text ↔ '\n' ∉ text.toList) := by
  refine ⟨?_, decode_withReturns_eq_iff f text⟩
  obtain ⟨ps, hps⟩ := exists_pieces text.toList
  refine ⟨ps, hps, ?_⟩
  cases hraw : f.raw with
  | true => simp [Form.decode, hraw]
  | false => simp [Form.decode, hraw, hps.unescape_withReturns]

/-- In a text with carriage returns a backslash at the end of a line does not continue it: the
literal denotes another text than with line feeds alone. -/
theorem decode_continued_withReturns_ne :
    ¬ ∀ (f : Form) (text : String), '\r' ∉ text.toList →
      f.decode (String.ofList (withReturns text.toList)) = f.decode text := by
  intro hall
  have hsame := hall {} "ab\\\ncd" (by decide)
  have hkept : ({} : Form).decode (String.ofList (withReturns "ab\\\ncd".toList)) =
      "ab\\\r\ncd" := by decide +kernel
  have hjoined : ({} : Form).decode "ab\\\ncd" = "abcd" := by decide +kernel
  rw [hkept, hjoined] at hsame
  exact absurd hsame (by decide)

end Literal

end PythonAudit
