import PythonAudit.Proofs.LiteralValue

/-!
# Doubled braces in format strings

In a segment of a format string a brace is written twice.

* `doubleBraces` writes a text in this way;
* `undouble_doubled` is the step: reading one kind of doubled character leaves the other kinds
  doubled, however long their runs are and however they are mixed;
* `undoubleBraces_doubleBraces` says that the two steps together give the text back;
* `ParseTree.IsSegment` says what a segment of a format string is, and
  `Reading.ofChild_of_isSegment` how its value is found;
* `segment_of_doubled_braces` says that a segment with doubled braces has the value of the text with
  single ones.
-/

namespace PythonAudit

namespace Literal

/-! ### Doubling -/

/-- Writes the characters of some kinds twice and the others once. -/
def doubled (kinds : Char → Bool) (cs : List Char) : List Char :=
  cs.flatMap fun c => if kinds c then [c, c] else [c]

/-- The character is an opening or a closing brace. -/
def isBrace (c : Char) : Bool := c == '\x7b' || c == '\x7d'

/-- The text with every brace written twice. -/
def doubleBraces (text : String) : String := String.ofList (doubled isBrace text.toList)

theorem doubled_eq_self {kinds : Char → Bool} {cs : List Char} (h : ∀ c ∈ cs, kinds c = false) :
    doubled kinds cs = cs := by
  induction cs with
  | nil => rfl
  | cons c cs ih =>
    obtain ⟨hc, hcs⟩ := List.forall_mem_cons.1 h
    have hrest := ih hcs
    simp only [doubled, List.flatMap_cons, hc] at hrest ⊢
    simp [hrest]

theorem undouble_cons_of_ne {x c : Char} (h : c ≠ x) (cs : List Char) :
    undouble x (c :: cs) = c :: undouble x cs := by
  cases cs with
  | nil => rfl
  | cons d cs => simp [undouble, h]

/-- When one kind of doubled character is read, the others stay doubled. -/
theorem undouble_doubled (kinds : Char → Bool) {x : Char} (hx : kinds x = true) (cs : List Char) :
    undouble x (doubled kinds cs) = doubled (fun c => kinds c && c != x) cs := by
  induction cs with
  | nil => rfl
  | cons c cs ih =>
    simp only [doubled, List.flatMap_cons] at ih ⊢
    by_cases hc : c = x
    · -- a pair is read at once, so the next one starts where it was written
      subst hc
      simp [hx, undouble, ih]
    · by_cases hk : kinds c = true
      · simp [hk, hc, undouble_cons_of_ne hc, ih]
      · simp [hk, undouble_cons_of_ne hc, ih]

theorem undoubleBraces_doubleBraces (text : String) :
    undoubleBraces (doubleBraces text) = text := by
  have hopening := undouble_doubled isBrace (x := '\x7b') rfl text.toList
  have hclosing :=
    undouble_doubled (fun c => isBrace c && c != '\x7b') (x := '\x7d') rfl text.toList
  -- no third kind of brace is left
  have hnone : ∀ c ∈ text.toList, ((isBrace c && c != '\x7b') && c != '\x7d') = false := by
    intro c _
    by_cases h : c = '\x7b' <;> by_cases h' : c = '\x7d' <;> simp [isBrace, h, h']
  rw [undoubleBraces, doubleBraces, String.toList_ofList, hopening, hclosing, doubled_eq_self hnone,
    String.ofList_toList]

end Literal

namespace Syntax

open Literal

/-! ### Segments -/

/-- The second tree is a segment of the first one, a format string of the given form. -/
structure ParseTree.IsSegment (s u : ParseTree) (f : Form) : Prop where
  string : s.kind = .string
  form : s.form? = some f
  format : f.format = true
  child : u ∈ s.children
  named : u.label.named = true
  content : u.kind = .stringContent

variable {s u : ParseTree} {f : Form}

theorem ParseTree.IsSegment.segmentText_eq (h : s.IsSegment u f) :
    s.segmentText u = f.decode (undoubleBraces u.label.text) := by
  rw [ParseTree.segmentText, h.form, Option.getD_some]

theorem ParseTree.IsSegment.isFormat (h : s.IsSegment u f) : s.isFormat = true := by
  simp [ParseTree.isFormat, h.form, h.format]

/-- The value of a segment is given to it, unless the string belongs to a literal that has a
value. -/
theorem Reading.ofChild_of_isSegment (h : s.IsSegment u f) {inherited : Reading}
    (hopen : inherited ≠ .covered) :
    inherited.ofChild s u = some (.given (s.segmentText u)) := by
  simp [Reading.ofChild, h.segmentText_eq, h.string, h.form, h.format, h.named, h.content, hopen]

theorem ParseTree.IsSegment.mem_keptChildren (h : s.IsSegment u f) : u ∈ s.keptChildren := by
  rw [ParseTree.keptChildren, List.mem_filter]
  exact ⟨h.child, by simp [ParseTree.keeps, h.string, h.named, h.content, h.isFormat]⟩

/-- Every segment of a format string in a well-shaped tree has a node of its own, below that of the
string. -/
theorem Arena.Origin.exists_segment {t : ParseTree} {i : Nat} (hshape : t.WellShaped)
    (ho : (ofTree t).Origin t i s) (h : s.IsSegment u f) :
    ∃ c ∈ (ofTree t).children i, (ofTree t).Origin t c u ∧
      (ofTree t).literal? c = some (s.segmentText u) := by
  have hall := ho.children hshape
  obtain ⟨j, hj, rfl⟩ := List.getElem_of_mem h.mem_keptChildren
  have hj' : j < ((ofTree t).children i).length := hall.length_eq ▸ hj
  obtain ⟨hu, -⟩ := hall.get hj' hj
  have hmem := List.getElem_mem hj'
  exact ⟨_, hmem, hu, ho.literal_of_segment hshape h.string hmem hu h.content⟩

/-- **A segment with doubled braces has the value of the text with single ones.** -/
theorem segment_of_doubled_braces (v : String) (f : Form) :
    undoubleBraces (doubleBraces v) = v ∧
    (∀ s u, s.IsSegment u f → u.label.text = doubleBraces v →
      ∀ inherited, inherited ≠ Reading.covered → ∀ id,
      (Pending.ofChildren s id inherited [u]).map (fun p => p.toNode.literal) =
        [some (f.decode v)]) ∧
    (∀ t, t.WellShaped → ∀ i s, (Arena.ofTree t).Origin t i s →
      ∀ u, s.IsSegment u f → u.label.text = doubleBraces v →
        ∃ c ∈ (Arena.ofTree t).children i, (Arena.ofTree t).Origin t c u ∧
          (Arena.ofTree t).literal? c = some (f.decode v)) := by
  have hvalue : ∀ s u, ParseTree.IsSegment s u f → u.label.text = doubleBraces v →
    s.segmentText u = f.decode v := by
    intro s u hsegment htext
    rw [hsegment.segmentText_eq, htext, undoubleBraces_doubleBraces]
  refine ⟨undoubleBraces_doubleBraces v, ?_, ?_⟩
  · intro s u hsegment htext inherited hopen id
    simp [Pending.ofChildren, Reading.ofChild_of_isSegment hsegment hopen, Pending.toNode,
      Reading.resolve, hvalue s u hsegment htext]
  · intro t hshape i s ho u hsegment htext
    rw [← hvalue s u hsegment htext]
    exact ho.exists_segment hshape hsegment

/-- A text with runs of braces around an escape and next to a backslash. -/
def bracedText : String := "\x7b\x7b\\x41\x7d\x7b\\\\\x7d\x7d\x7d"

/-- A format string with this text as its only segment. -/
def bracedString (opening : String) : ParseTree :=
  stringOnLine 0 24 opening [ParseTree.oneLine .stringContent 2 23 (doubleBraces bracedText) []]

theorem segment_of_bracedString :
    (bracedString "f\"").WellShaped ∧ (bracedString "Rf\"").WellShaped ∧
      (∃ c ∈ (Arena.ofTree (bracedString "f\"")).children 0,
        (Arena.ofTree (bracedString "f\"")).literal? c = some "\x7b\x7bA\x7d\x7b\\\x7d\x7d\x7d") ∧
      ∃ c ∈ (Arena.ofTree (bracedString "Rf\"")).children 0,
        (Arena.ofTree (bracedString "Rf\"")).literal? c = some bracedText := by
  have hshape : (bracedString "f\"").WellShaped := by decide
  have hshape' : (bracedString "Rf\"").WellShaped := by decide
  have hdecoded : ({ format := true } : Form).decode bracedText =
      "\x7b\x7bA\x7d\x7b\\\x7d\x7d\x7d" := by decide +kernel
  obtain ⟨-, -, hsegment⟩ := segment_of_doubled_braces bracedText { format := true }
  obtain ⟨-, -, hsegment'⟩ := segment_of_doubled_braces bracedText { raw := true, format := true }
  refine ⟨hshape, hshape', ?_, ?_⟩
  · obtain ⟨c, hc, -, hliteral⟩ := hsegment _ hshape 0 _ Arena.Origin.root _
      ⟨rfl, by decide, rfl, List.mem_cons_of_mem _ (List.mem_singleton_self _), rfl, rfl⟩ rfl
    exact ⟨c, hc, hdecoded ▸ hliteral⟩
  · obtain ⟨c, hc, -, hliteral⟩ := hsegment' _ hshape' 0 _ Arena.Origin.root _
      ⟨rfl, by decide, rfl, List.mem_cons_of_mem _ (List.mem_singleton_self _), rfl, rfl⟩ rfl
    exact ⟨c, hc, hliteral⟩

end Syntax

end PythonAudit
