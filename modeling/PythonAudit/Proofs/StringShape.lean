import PythonAudit.Proofs.Pruning

/-!
# Strings in well-shaped trees

* `ParseTree.isPlain` tells whether a string is neither bytes nor a format string,
  `ParseTree.strText` is the text that it denotes, and `ParseTree.segmentText` the text of one
  segment of a format string;
* `ParseTree.WellShaped` says that the strings of a tree are put together as the grammar puts them
  together;
* `ownValue?_of_string` and `ownValue?_of_concatenatedString` say which strings have a value of
  their own;
* `Reading.Fits` says how the value of a node can be found in a well-shaped tree, and
  `Reading.OfChild` how that of a kept child is found; `ofChild_resolve` is the step from a node to
  its children.
-/

namespace PythonAudit

namespace Syntax

open Literal

namespace ParseTree

/-! ### Texts of strings -/

/-- The opening of the string says that it is bytes. -/
def isBytes (t : ParseTree) : Bool := t.form?.any fun f => f.bytes

/-- The string is neither bytes nor a format string. -/
def isPlain (t : ParseTree) : Bool := !t.isBytes && !t.isFormat

/-- The segments of a string. -/
def segments (t : ParseTree) : List ParseTree :=
  t.children.filter fun c => c.label.named && c.kind == .stringContent

/-- The strings that a concatenated string is made of. -/
def parts (t : ParseTree) : List ParseTree :=
  t.children.filter fun c => c.label.named && c.kind == .string

/-- All strings that a concatenated string is made of are plain. -/
def isJoined (t : ParseTree) : Bool := t.parts.all isPlain

/-- The text that a string denotes: its segments put together and decoded. -/
def strText (t : ParseTree) : String :=
  (t.form?.getD {}).decode (String.join (t.segments.map fun c => c.label.text))

/-- The text that one segment of a format string denotes. -/
def segmentText (t segment : ParseTree) : String :=
  (t.form?.getD {}).decode (undoubleBraces segment.label.text)

/-! ### Shapes -/

/-- A string has an opening, which does not say both bytes and format, and interpolations only when
it is a format string. A concatenated string has nothing but strings and comments in it. -/
def StringShape (t : ParseTree) : Prop :=
  (t.kind = .string → t.form?.isSome = true ∧ (t.isBytes = true → t.isFormat = false) ∧
    ∀ c ∈ t.children, c.label.named = true → c.kind = .interpolation → t.isFormat = true) ∧
  (t.kind = .concatenatedString →
    ∀ c ∈ t.children, c.label.named = true → c.kind = .string ∨ c.kind = .comment)

/-- Every string in the tree has the shape that the grammar gives it. -/
def WellShaped (t : ParseTree) : Prop := ∀ s ∈ t.preorder, s.StringShape

instance (t : ParseTree) : Decidable t.StringShape := inferInstanceAs (Decidable (_ ∧ _))

instance (t : ParseTree) : Decidable t.WellShaped :=
  inferInstanceAs (Decidable (∀ s ∈ t.preorder, s.StringShape))

theorem preorder_eq (t : ParseTree) : t.preorder = t :: preorders t.children := by
  cases t with
  | node l cs => rw [preorder, children_node]

theorem mem_preorders_of_mem {c s : ParseTree} {cs : List ParseTree} (hc : c ∈ cs)
    (hs : s ∈ c.preorder) :
    s ∈ preorders cs := by
  induction cs with
  | nil => cases hc
  | cons d ds ih =>
    rw [preorders, List.mem_append]
    rcases List.mem_cons.1 hc with rfl | hd
    · exact Or.inl hs
    · exact Or.inr (ih hd)

theorem WellShaped.root {t : ParseTree} (h : t.WellShaped) : t.StringShape :=
  h t (by rw [preorder_eq]; exact List.mem_cons_self)

theorem WellShaped.child {t c : ParseTree} (h : t.WellShaped) (hc : c ∈ t.children) :
    c.WellShaped := by
  intro s hs
  refine h s ?_
  rw [preorder_eq]
  exact List.mem_cons_of_mem t (mem_preorders_of_mem hc hs)

/-- A string that is no format string has no interpolations. -/
theorem StringShape.kind_ne_interpolation {t c : ParseTree} (h : t.StringShape)
    (hk : t.kind = .string) (hformat : t.isFormat = false) (hc : c ∈ t.children)
    (hnamed : c.label.named = true) :
    c.kind ≠ .interpolation := by
  intro hci
  rw [(h.1 hk).2.2 c hc hnamed hci] at hformat
  cases hformat

/-! ### Values of strings -/

theorem isFormat_of_isPlain {t : ParseTree} (h : t.isPlain = true) : t.isFormat = false := by
  simp_all [isPlain]

theorem plainText?_eq {t : ParseTree} (h : t.form?.isSome = true) :
    t.plainText? = if t.isPlain then some t.strText else none := by
  obtain ⟨f, hf⟩ := Option.isSome_iff_exists.1 h
  simp only [plainText?, isPlain, isBytes, isFormat, strText, hf, Option.any_some, Option.getD_some]
  cases f.bytes <;> cases f.format <;> rfl

theorem joinedText?_eq {ps : List ParseTree} (h : ∀ p ∈ ps, p.form?.isSome = true) :
    joinedText? ps = if ps.all isPlain then some (String.join (ps.map strText)) else none := by
  induction ps with
  | nil => rfl
  | cons p ps ih =>
    obtain ⟨hp, hps⟩ := List.forall_mem_cons.1 h
    rw [joinedText?, plainText?_eq hp, ih hps, List.all_cons, List.map_cons, String.join_cons]
    cases p.isPlain <;> cases ps.all isPlain <;> rfl

theorem mem_parts {t p : ParseTree} :
    p ∈ t.parts ↔ p ∈ t.children ∧ p.label.named = true ∧ p.kind = .string := by
  simp [parts]

/-- A string has a value of its own when it is plain. -/
theorem ownValue?_of_string {t : ParseTree} (h : t.StringShape) (hk : t.kind = .string) :
    t.ownValue? = if t.isPlain then some t.strText else none := by
  unfold ownValue?
  rw [hk]
  exact plainText?_eq (h.1 hk).1

/-- A concatenated string has a value of its own when all its parts are plain. -/
theorem ownValue?_of_concatenatedString {t : ParseTree} (h : t.WellShaped)
    (hk : t.kind = .concatenatedString) :
    t.ownValue? = if t.isJoined then some (String.join (t.parts.map strText)) else none := by
  unfold ownValue?
  rw [hk]
  refine joinedText?_eq fun p hp => ?_
  obtain ⟨hmem, -, hkind⟩ := mem_parts.1 hp
  exact ((h.child hmem).root.1 hkind).1

theorem ownValue?_of_ne {t : ParseTree} (hs : t.kind ≠ .string)
    (hc : t.kind ≠ .concatenatedString) :
    t.ownValue? = none := by
  unfold ownValue?
  split
  next hk => exact absurd hk hs
  next hk => exact absurd hk hc
  next => rfl

/-- A string without a value of its own is a format string or bytes, and not both. -/
theorem isFormat_of_ownValue?_eq_none {t : ParseTree} (h : t.StringShape) (hv : t.ownValue? = none)
    (hk : t.kind = .string) : t.isFormat = !t.isBytes := by
  rw [ownValue?_of_string h hk] at hv
  have hnot := (h.1 hk).2.1
  cases hb : t.isBytes <;> cases hf : t.isFormat <;> simp_all [isPlain]

theorem isFormat_of_ownValue?_eq_some {t : ParseTree} (h : t.StringShape) {v : String}
    (hv : t.ownValue? = some v) (hk : t.kind = .string) : t.isFormat = false := by
  rw [ownValue?_of_string h hk] at hv
  cases hp : t.isPlain with
  | false => simp [hp] at hv
  | true => exact isFormat_of_isPlain hp

/-- The trees with a value of their own are the plain strings and the concatenations of plain
strings. -/
theorem ownValue?_eq_some_iff {t : ParseTree} (h : t.WellShaped) (v : String) :
    t.ownValue? = some v ↔
      (t.kind = .string ∧ t.isPlain = true ∧ v = t.strText) ∨
        (t.kind = .concatenatedString ∧ t.isJoined = true ∧
          v = String.join (t.parts.map strText)) := by
  by_cases hs : t.kind = .string
  · rw [ownValue?_of_string h.root hs]
    cases t.isPlain <;> simp [hs, eq_comm (a := v)]
  · by_cases hc : t.kind = .concatenatedString
    · rw [ownValue?_of_concatenatedString h hc]
      cases t.isJoined <;> simp [hc, eq_comm (a := v)]
    · rw [ownValue?_of_ne hs hc]
      simp [hs, hc]

end ParseTree

/-! ### Readings -/

namespace Reading

/-- How the value of a node can be found in a well-shaped tree. -/
inductive Fits (t : ParseTree) : Reading → Prop
  | afresh : Fits t .open
  | segment (v : String) : t.kind = .stringContent → Fits t (.given v)
  | part : t.kind = .string → t.isPlain = true → Fits t .covered

/-- How the value of a kept child is found in a well-shaped tree: it is given to a segment, a part
of a plain concatenation has none, and every other child is looked at by itself. -/
inductive OfChild (t c : ParseTree) : Reading → Prop
  | afresh : (t.kind = .concatenatedString → t.isJoined = false) →
      (t.kind = .string → c.kind = .interpolation) →
      OfChild t c .open
  | segment : t.kind = .string → t.isFormat = true → c.kind = .stringContent →
      OfChild t c (.given (t.segmentText c))
  | part : t.kind = .concatenatedString → t.isJoined = true → c.kind = .string → c.isPlain = true →
      OfChild t c .covered

theorem OfChild.fits {t c : ParseTree} {r : Reading} (h : OfChild t c r) : Fits c r := by
  cases h with
  | afresh => exact Fits.afresh
  | segment _ _ hc => exact Fits.segment _ hc
  | part _ _ hc hp => exact Fits.part hc hp

/-- Everything that `ofChild` can do. -/
theorem ofChild_cases {inherited r : Reading} {t c : ParseTree}
    (h : inherited.ofChild t c = some r) :
    c.label.named = true ∧ c.kind ≠ .comment ∧ t.kind ≠ .stringContent ∧
      ((t.kind ≠ .string ∧ r = inherited) ∨
        (t.kind = .string ∧ c.kind = .interpolation ∧ r = .open) ∨
        (t.kind = .string ∧ c.kind = .stringContent ∧ t.isFormat = true ∧
          r = .given (t.segmentText c))) := by
  unfold ofChild at h
  split_ifs at h with hout hstring <;>
    simp only [Bool.or_eq_true, Bool.not_eq_true', beq_iff_eq, not_or,
      Bool.not_eq_false] at hout <;>
    obtain ⟨⟨hnamed, hcomment⟩, hcontent⟩ := hout <;>
    refine ⟨hnamed, hcomment, hcontent, ?_⟩
  · exact Or.inl ⟨bne_iff_ne.1 hstring, (Option.some.inj h).symm⟩
  · have hk : t.kind = .string := by simpa using hstring
    right
    split at h
    next hc => exact Or.inl ⟨hk, hc, (Option.some.inj h).symm⟩
    next hc =>
      cases hf : t.form? with
      | none => simp [hf] at h
      | some f =>
        simp only [hf] at h
        split_ifs at h with hformat
        simp only [Bool.or_eq_true, Bool.not_eq_true', not_or, Bool.not_eq_false] at hformat
        refine Or.inr ⟨hk, hc, by simp [ParseTree.isFormat, hf, hformat.1], ?_⟩
        rw [← Option.some.inj h, ParseTree.segmentText, hf, Option.getD_some]
    next => cases h

/-- The children of a node that is looked at by itself inherit that, unless the node has a value of
its own. -/
theorem resolve_open (t : ParseTree) :
    Reading.open.resolve t = (t.ownValue?, Reading.ofCovered t.ownValue?.isSome) := by
  unfold resolve
  cases t.ownValue? <;> rfl

/-- In a well-shaped tree the reading of a kept child follows from its parent, whatever the parent
inherited. -/
theorem ofChild_resolve {t c : ParseTree} {r r' : Reading} (h : t.WellShaped) (hr : Fits t r)
    (hc : c ∈ t.children) (hread : (r.resolve t).2.ofChild t c = some r') : OfChild t c r' := by
  obtain ⟨hnamed, hcomment, hcontent, ⟨hk, rfl⟩ | ⟨hk, hci, rfl⟩ | ⟨hk, hcs, hformat, rfl⟩⟩ :=
    ofChild_cases hread
  · -- the parent is no string, so it is looked at by itself
    cases hr with
    | segment v hseg => exact absurd hseg hcontent
    | part hstring _ => exact absurd hstring hk
    | afresh =>
      rw [resolve_open]
      by_cases hcat : t.kind = .concatenatedString
      · have hcstring : c.kind = .string := (h.root.2 hcat c hc hnamed).resolve_right hcomment
        rw [ParseTree.ownValue?_of_concatenatedString h hcat]
        cases hj : t.isJoined with
        | false => exact OfChild.afresh (fun _ => hj) (fun hstring => absurd hstring hk)
        | true =>
          refine OfChild.part hcat hj hcstring ?_
          exact List.all_eq_true.1 hj c (ParseTree.mem_parts.2 ⟨hc, hnamed, hcstring⟩)
      · rw [ParseTree.ownValue?_of_ne hk hcat]
        exact OfChild.afresh (fun hcat' => absurd hcat' hcat) (fun hstring => absurd hstring hk)
  · exact OfChild.afresh (fun hcat => by rw [hk] at hcat; cases hcat) (fun _ => hci)
  · exact OfChild.segment hk hformat hcs

/-! ### Kept children -/

/-- Only the segments of a format string are kept or not depending on what is inherited. -/
theorem keeps_eq_false {t : ParseTree} (h : t.kind = .string → t.isFormat = false) (b : Bool)
    (c : ParseTree) :
    ParseTree.keeps b t c = ParseTree.keeps false t c := by
  by_cases hk : t.kind = .string
  · simp [ParseTree.keeps, h hk]
  · simp [ParseTree.keeps, bne_iff_ne.2 hk]

theorem isSome_ofChild (b : Bool) (t c : ParseTree) :
    ((Reading.ofCovered b).ofChild t c).isSome = ParseTree.keeps b t c := by
  cases hk : ParseTree.keeps b t c with
  | false => rw [ofChild_of_not_keeps hk, Option.isSome_none]
  | true =>
    obtain ⟨r, hr, -⟩ := ofChild_of_keeps hk
    rw [hr, Option.isSome_some]

/-- In a well-shaped tree the same children of a node are kept whatever the node inherited. -/
theorem isSome_ofChild_resolve {t : ParseTree} {r : Reading} (h : t.WellShaped) (hr : Fits t r)
    (c : ParseTree) :
    ((r.resolve t).2.ofChild t c).isSome = ParseTree.keeps false t c := by
  cases hr with
  | segment v hk =>
    rw [ofChild_of_stringContent hk, ParseTree.keeps_of_stringContent hk, Option.isSome_none]
  | part hk hp =>
    rw [← keeps_eq_false (fun _ => ParseTree.isFormat_of_isPlain hp) true c]
    exact isSome_ofChild true t c
  | afresh =>
    rw [resolve_open, isSome_ofChild]
    cases hv : t.ownValue?.isSome with
    | false => rfl
    | true =>
      obtain ⟨v, hv⟩ := Option.isSome_iff_exists.1 hv
      exact keeps_eq_false (ParseTree.isFormat_of_ownValue?_eq_some h.root hv) true c

end Reading

end Syntax

end PythonAudit
