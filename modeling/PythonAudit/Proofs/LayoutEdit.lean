import PythonAudit.Proofs.Pruning
import PythonAudit.Proofs.Sighting

/-!
# Comments and parentheses hide nothing

Someone who writes a text to be scanned is free to put comments anywhere and parentheses around any
expression.

* `LayoutEdit` is one such edit of a tree: a comment is put among the children of a node, a child is
  put in parentheses that take over its role, or a label is moved to another place;
* `ParseTree.LooksLike t t'` says that no detector can tell two trees apart, and `LooksLike.node`
  carries it from children to parents;
* `LayoutEdit.looksLike` says that one edit changes nothing that a detector sees;
* `findings_independent_of_layout` says the same of any number of edits, also undone ones, for all
  the findings of a walk.
-/

namespace PythonAudit

namespace Syntax

/-! ### Edits -/

/-- The text of a node of this kind is looked at. -/
def Kind.isRead : Kind → Bool
  | .identifier | .stringStart | .stringContent => true
  | _ => false

/-- Two labels differ only in their places, in their roles, and in texts that nobody looks at. -/
structure Label.Matches (l l' : Label) : Prop where
  kind : l'.kind = l.kind
  named : l'.named = l.named
  text : l.kind.isRead = true → l'.text = l.text

namespace ParseTree

/-- The same tree without a role. -/
def withoutField : ParseTree → ParseTree
  | node l cs => node { l with field := none } cs

/-- The tree in parentheses, which take over its role. Beside it they hold the tokens of the
parentheses. -/
def parenthesized (w : Label) (opening closing : List ParseTree) (x : ParseTree) : ParseTree :=
  node { w with kind := .parenthesizedExpression, named := true, field := x.label.field }
    (opening ++ x.withoutField :: closing)

/-- A child of a node of the given kind that may be put in parentheses: a named node, no comment,
that is neither the member of an attribute nor part of a string. -/
structure Wrappable (parent : Kind) (x : ParseTree) : Prop where
  named : x.label.named = true
  not_comment : x.kind ≠ .comment
  not_member : ¬ (parent = .attributeAccess ∧ x.label.field = some .member)
  not_in_string : parent ∉ [Kind.string, .concatenatedString, .stringContent]

theorem kind_parenthesized (w : Label) (opening closing : List ParseTree) (x : ParseTree) :
    (parenthesized w opening closing x).kind = .parenthesizedExpression := rfl

end ParseTree

open ParseTree

/-- One edit of the layout of a tree: a comment is put among the children of a node, a child is put
in parentheses, a label gets another place, or one of these happens inside a child. -/
inductive LayoutEdit : ParseTree → ParseTree → Prop
  | comment (l : Label) (before after : List ParseTree) {c : ParseTree} (hc : c.kind = .comment) :
      LayoutEdit (node l (before ++ after)) (node l (before ++ c :: after))
  | wrap (l w : Label) (before after opening closing : List ParseTree) {x : ParseTree}
      (hx : Wrappable l.kind x)
      (htokens : ∀ c ∈ opening ++ closing, c.label.named = false) :
      LayoutEdit (node l (before ++ x :: after))
        (node l (before ++ parenthesized w opening closing x :: after))
  | move {l l' : Label} (hl : l.Matches l') (hfield : l'.field = l.field) (cs : List ParseTree) :
      LayoutEdit (node l cs) (node l' cs)
  | inside (l : Label) (before after : List ParseTree) {x x' : ParseTree} (h : LayoutEdit x x') :
      LayoutEdit (node l (before ++ x :: after)) (node l (before ++ x' :: after))

theorem Label.Matches.refl (l : Label) : l.Matches l := ⟨rfl, rfl, fun _ => rfl⟩

theorem Label.Matches.symm {l l' : Label} (h : l.Matches l') : l'.Matches l :=
  ⟨h.kind.symm, h.named.symm, fun hr => (h.text (h.kind ▸ hr)).symm⟩

theorem Label.Matches.trans {l l' l'' : Label} (h : l.Matches l') (h' : l'.Matches l'') :
    l.Matches l'' :=
  ⟨h'.kind.trans h.kind, h'.named.trans h.named, fun hr =>
    (h'.text (h.kind ▸ hr)).trans (h.text hr)⟩

/-! ### Kept trees that look alike -/

namespace Kept

/-- Two kept trees spell the same name, and whatever is called around them, the same is seen of
them. -/
structure Alike (k k' : Kept) : Prop where
  name : k'.name? = k.name?
  sightings : ∀ around, k'.sightings around = k.sightings around

/-- Two children of a node of the given kind look alike to their parent, and in themselves. -/
structure AlikeIn (parent : Kind) (k k' : Kept) : Prop where
  field : k'.field = k.field
  text : parent = .attributeAccess → k.field = some .member → k'.text? = k.text?
  alike : k.Alike k'

theorem Alike.refl (k : Kept) : k.Alike k := ⟨rfl, fun _ => rfl⟩

theorem AlikeIn.refl (parent : Kind) (k : Kept) : k.AlikeIn parent k :=
  ⟨rfl, fun _ _ => rfl, Alike.refl k⟩

theorem sightings_eq (around : Option String) (k : Kept) :
    k.sightings around =
      Sighting.noted ⟨k.callee?, around, k.literal⟩ ++
        sightingsAmong (k.aroundChildren around) k.children := by
  cases k with
  | node t r ks => rw [sightings, children_node]

section Congruence

variable {parent : Kind} {ks ks' : List Kept}

theorem nameBy?_congr (h : List.Forall₂ (AlikeIn parent) ks ks') (f : Field) :
    nameBy? f ks' = nameBy? f ks := by
  rw [nameBy?_eq, nameBy?_eq]
  exact (bind_find?_congr h (fun k k' hk => by rw [hk.field]) fun k k' hk _ =>
    hk.alike.name.symm).symm

theorem memberText?_congr (h : List.Forall₂ (AlikeIn .attributeAccess) ks ks') :
    memberText? ks' = memberText? ks :=
  (bind_find?_congr h (fun k k' hk => by rw [hk.field])
    fun k k' hk hmember => (hk.text rfl (beq_iff_eq.1 hmember)).symm).symm

theorem onlyName?_congr (h : List.Forall₂ (AlikeIn parent) ks ks') :
    onlyName? ks' = onlyName? ks := by
  cases h with
  | nil => rfl
  | cons hk hrest =>
    cases hrest with
    | nil => exact hk.alike.name
    | cons _ _ => simp [onlyName?]

theorem sightingsAmong_congr (h : List.Forall₂ (AlikeIn parent) ks ks') (around : Option String) :
    sightingsAmong around ks' = sightingsAmong around ks := by
  induction h with
  | nil => rfl
  | cons hk _ ih => rw [sightingsAmong, sightingsAmong, hk.alike.sightings, ih]

end Congruence

/-- Kept trees look alike when their roots and their children do. -/
theorem Alike.of_children {k k' : Kept} (hkind : k'.tree.kind = k.tree.kind)
    (htext : k.tree.kind = .identifier → k'.tree.label.text = k.tree.label.text)
    (hliteral : k'.literal = k.literal)
    (hall : List.Forall₂ (AlikeIn k.tree.kind) k.children k'.children) :
    k.Alike k' := by
  have hcallee : k'.callee? = k.callee? := by
    rw [callee?, callee?, hkind, nameBy?_congr hall]
  refine ⟨?_, fun around => ?_⟩
  · by_cases h₁ : k.tree.kind = .identifier
    · rw [name?_identifier h₁, name?_identifier (hkind.trans h₁), htext h₁]
    by_cases h₂ : k.tree.kind = .attributeAccess
    · rw [name?_attribute h₂, name?_attribute (hkind.trans h₂), nameBy?_congr hall,
        memberText?_congr (h₂ ▸ hall)]
    by_cases h₃ : k.tree.kind = .parenthesizedExpression
    · rw [name?_parenthesized h₃, name?_parenthesized (hkind.trans h₃), onlyName?_congr hall]
    · rw [name?_other h₁ h₂ h₃, name?_other (hkind ▸ h₁) (hkind ▸ h₂) (hkind ▸ h₃)]
  · rw [sightings_eq, sightings_eq, hcallee, hliteral, sightingsAmong_congr hall, aroundChildren,
      aroundChildren, hkind, hcallee]

end Kept

/-! ### Trees that look alike -/

/-- No detector can tell two trees apart, wherever they stand. -/
structure ParseTree.LooksLike (t t' : ParseTree) : Prop where
  label : t.label.Matches t'.label
  form : t.kind = .string → t'.form? = t.form?
  body : t.kind = .string → t'.body = t.body
  kept : ∀ r, (t.kept r).Alike (t'.kept r)

namespace ParseTree.LooksLike

variable {t t' t'' : ParseTree}

theorem refl (t : ParseTree) : t.LooksLike t :=
  ⟨Label.Matches.refl _, fun _ => rfl, fun _ => rfl, fun _ => Kept.Alike.refl _⟩

theorem kind (h : t.LooksLike t') : t'.kind = t.kind := h.label.kind

theorem symm (h : t.LooksLike t') : t'.LooksLike t where
  label := h.label.symm
  form hs := (h.form (h.kind ▸ hs)).symm
  body hs := (h.body (h.kind ▸ hs)).symm
  kept r := ⟨(h.kept r).name.symm, fun around => ((h.kept r).sightings around).symm⟩

theorem trans (h : t.LooksLike t') (h' : t'.LooksLike t'') : t.LooksLike t'' where
  label := h.label.trans h'.label
  form hs := (h'.form (h.kind.trans hs)).trans (h.form hs)
  body hs := (h'.body (h.kind.trans hs)).trans (h.body hs)
  kept r := ⟨(h'.kept r).name.trans (h.kept r).name,
    fun around => ((h'.kept r).sightings around).trans ((h.kept r).sightings around)⟩

end ParseTree.LooksLike

/-! ### Readings -/

theorem Reading.resolve_congr {t t' : ParseTree} (h : t'.ownValue? = t.ownValue?) (r : Reading) :
    r.resolve t' = r.resolve t := by
  unfold Reading.resolve
  rw [h]

theorem Reading.exists_resolve_eq_ofCovered (r : Reading) (t : ParseTree) :
    ∃ b, (r.resolve t).2 = Reading.ofCovered b := by
  cases r with
  | «open» => exact ⟨_, Reading.resolve_ofCovered false t⟩
  | given v => exact ⟨true, rfl⟩
  | covered => exact ⟨true, rfl⟩

/-- Whether a child is kept, and how its value is found, does not depend on its place. -/
theorem Reading.ofChild_congr {p p' c c' : ParseTree} (hkind : p'.kind = p.kind)
    (hform : p.kind = .string → p'.form? = p.form?) (hc : c.label.Matches c'.label)
    (inherited : Reading) :
    inherited.ofChild p' c' = inherited.ofChild p c := by
  have hck : c'.kind = c.kind := hc.kind
  unfold Reading.ofChild
  rw [hc.named, hck, hkind]
  by_cases hs : p.kind = .string
  · rw [hform hs]
    by_cases hcontent : c.kind = .stringContent
    · have htext : c'.label.text = c.label.text :=
        hc.text (by rw [show c.label.kind = _ from hcontent]; rfl)
      rw [htext]
    · split_ifs
      · rfl
      · rfl
      · split <;> simp_all
  · have hne : (p.kind != .string) = true := bne_iff_ne.2 hs
    simp only [hne, if_true]

theorem Reading.ofChild_eq_none {p c : ParseTree} (h : c.label.named = false ∨ c.kind = .comment)
    (inherited : Reading) : inherited.ofChild p c = none := by
  unfold Reading.ofChild
  rcases h with h | h <;> simp [h]

/-- A child that may be put in parentheses is kept and inherits how its value is found. -/
theorem Reading.ofChild_of_wrappable {p c : ParseTree} (h : Wrappable p.kind c)
    (inherited : Reading) :
    inherited.ofChild p c = some inherited := by
  have hout := h.not_in_string
  simp only [List.mem_cons, List.not_mem_nil, or_false, not_or] at hout
  unfold Reading.ofChild
  simp [h.named, h.not_comment, hout.1, hout.2.2]

theorem ParseTree.plainText?_congr {t t' : ParseTree} (hform : t'.form? = t.form?)
    (hbody : t'.body = t.body) :
    t'.plainText? = t.plainText? := by
  unfold ParseTree.plainText?
  rw [hform, hbody]

/-! ### From children to parents -/

namespace ParseTree.LooksLike

/-- Trees look alike when their labels match, their strings have the same values, and what is kept
of their children looks alike. -/
theorem of_kept {l l' : Label} {cs cs' : List ParseTree} (hl : l.Matches l')
    (hform : l.kind = .string → (node l' cs').form? = (node l cs).form?)
    (hbody : l.kind = .string → (node l' cs').body = (node l cs).body)
    (hjoined : l.kind = .concatenatedString →
      joinedText? (cs'.filter fun c => c.label.named && c.kind == .string) =
        joinedText? (cs.filter fun c => c.label.named && c.kind == .string))
    (hkept : ∀ b, List.Forall₂ (Kept.AlikeIn l.kind)
      (keptAmong (node l cs) (Reading.ofCovered b) cs)
      (keptAmong (node l' cs') (Reading.ofCovered b) cs')) :
    (node l cs).LooksLike (node l' cs') := by
  have hkind : (node l' cs').kind = (node l cs).kind := hl.kind
  have hown : (node l' cs').ownValue? = (node l cs).ownValue? := by
    by_cases hs : l.kind = .string
    · simp only [ownValue?, hkind, show (node l cs).kind = .string from hs]
      exact plainText?_congr (hform hs) (hbody hs)
    by_cases hc : l.kind = .concatenatedString
    · simp only [ownValue?, hkind, show (node l cs).kind = .concatenatedString from hc]
      exact hjoined hc
    · rw [ownValue?_of_ne (t := node l cs) hs hc, ownValue?_of_ne (hkind ▸ hs) (hkind ▸ hc)]
  refine ⟨hl, hform, hbody, fun r => ?_⟩
  obtain ⟨b, hb⟩ := r.exists_resolve_eq_ofCovered (node l cs)
  have hresolve := Reading.resolve_congr hown r
  refine Kept.Alike.of_children ?_ (fun hid => ?_) ?_ ?_
  · rw [tree_kept, tree_kept, hkind]
  · rw [tree_kept] at hid ⊢
    rw [tree_kept]
    exact hl.text (by rw [show l.kind = _ from hid]; rfl)
  · rw [Kept.literal, Kept.literal, reading_kept, reading_kept, tree_kept, tree_kept, hresolve]
  · rw [tree_kept, kept_eq, kept_eq, Kept.children_node, Kept.children_node, hresolve, hb]
    exact hkept b

/-- A label that is moved changes nothing. -/
theorem relabel {l l' : Label} (hl : l.Matches l') (cs : List ParseTree) :
    (node l cs).LooksLike (node l' cs) := by
  refine of_kept hl (fun _ => rfl) (fun _ => rfl) (fun _ => rfl) fun b => ?_
  have hkind : (node l' cs).kind = (node l cs).kind := hl.kind
  have hsame : keptAmong (node l' cs) (Reading.ofCovered b) cs =
      keptAmong (node l cs) (Reading.ofCovered b) cs := by
    rw [keptAmong_eq, keptAmong_eq]
    refine List.filterMap_congr fun c _ => ?_
    rw [Reading.ofChild_congr hkind (fun _ => rfl) (Label.Matches.refl c.label)]
  rw [hsame]
  exact List.forall₂_same.2 fun k _ => Kept.AlikeIn.refl _ k

end ParseTree.LooksLike

theorem ParseTree.looksLike_withoutField (x : ParseTree) : x.LooksLike x.withoutField := by
  cases x with
  | node l cs =>
    have hl : l.Matches { l with field := none } := ⟨rfl, rfl, fun _ => rfl⟩
    exact LooksLike.relabel hl cs

/-- A tree is all that is kept between the parentheses around it. -/
theorem ParseTree.children_kept_parenthesized (w : Label) {opening closing : List ParseTree}
    {x : ParseTree} (hnamed : x.label.named = true) (hcomment : x.kind ≠ .comment)
    (htokens : ∀ c ∈ opening ++ closing, c.label.named = false) (b : Bool) :
    ((parenthesized w opening closing x).kept (Reading.ofCovered b)).children =
      [x.withoutField.kept (Reading.ofCovered b)] := by
  have hkind := kind_parenthesized w opening closing x
  have hown : (parenthesized w opening closing x).ownValue? = none :=
    ownValue?_of_ne (by rw [hkind]; decide) (by rw [hkind]; decide)
  have hlooks := x.looksLike_withoutField
  have hinner : Wrappable (parenthesized w opening closing x).kind x.withoutField :=
    ⟨hlooks.label.named.trans hnamed,
      hlooks.kind ▸ hcomment, by rw [hkind]; simp, by rw [hkind]; decide⟩
  have htoken : ∀ cs : List ParseTree, (∀ c ∈ cs, c.label.named = false) →
      (cs.filterMap fun c => ((Reading.ofCovered b).ofChild
        (parenthesized w opening closing x) c).map fun r => c.kept r) = [] := by
    intro cs hcs
    rw [List.filterMap_eq_nil_iff]
    intro c hc
    rw [Reading.ofChild_eq_none (Or.inl (hcs c hc)), Option.map_none]
  obtain ⟨hopening, hclosing⟩ := List.forall_mem_append.1 htokens
  have hsplit : (parenthesized w opening closing x).children =
      opening ++ x.withoutField :: closing := rfl
  rw [children_kept, Reading.resolve_ofCovered, hown, Option.isSome_none, Bool.or_false, hsplit,
    List.filterMap_append, List.filterMap_cons, htoken opening hopening, htoken closing hclosing,
    Reading.ofChild_of_wrappable hinner, List.nil_append, Option.map_some]

/-- What is kept of a tree looks the same in parentheses. -/
theorem ParseTree.alike_parenthesized (w : Label) {opening closing : List ParseTree} {x : ParseTree}
    (hnamed : x.label.named = true) (hcomment : x.kind ≠ .comment)
    (htokens : ∀ c ∈ opening ++ closing, c.label.named = false) (b : Bool) :
    (x.kept (Reading.ofCovered b)).Alike
      ((parenthesized w opening closing x).kept (Reading.ofCovered b)) := by
  have hinner := x.looksLike_withoutField.kept (Reading.ofCovered b)
  have hchildren := children_kept_parenthesized w hnamed hcomment htokens b
  have hkind : ((parenthesized w opening closing x).kept (Reading.ofCovered b)).tree.kind =
      .parenthesizedExpression := by
    rw [tree_kept, kind_parenthesized]
  refine ⟨?_, fun around => ?_⟩
  · rw [Kept.name?_parenthesized hkind, hchildren, Kept.onlyName?, hinner.name]
  · -- the parentheses call nothing, have no value, and hand down what is called around them
    have hcallee :
        ((parenthesized w opening closing x).kept (Reading.ofCovered b)).callee? = none := by
      rw [Kept.callee?, hkind]
      rfl
    have hliteral :
        ((parenthesized w opening closing x).kept (Reading.ofCovered b)).literal = none := by
      rw [Kept.literal, reading_kept, tree_kept]
      cases b <;> rfl
    rw [Kept.sightings_eq, hcallee, hliteral, Kept.aroundChildren, hkind, hchildren,
      Kept.sightingsAmong, Kept.sightingsAmong, List.append_nil, ← hinner.sightings]
    rfl

/-- Children of two nodes of the given kind, of which some comments are put between the others, and
some of the others are put in parentheses. -/
inductive SiblingsAlike (parent : Kind) : List ParseTree → List ParseTree → Prop
  | nil : SiblingsAlike parent [] []
  | comment {c : ParseTree} {cs cs' : List ParseTree} (hc : c.kind = .comment) :
      SiblingsAlike parent cs cs' → SiblingsAlike parent cs (c :: cs')
  | alike {x x' : ParseTree} {cs cs' : List ParseTree} (hx : x.LooksLike x')
      (hfield : x'.label.field = x.label.field) :
      SiblingsAlike parent cs cs' → SiblingsAlike parent (x :: cs) (x' :: cs')
  | wrapped {x : ParseTree} {cs cs' : List ParseTree} (w : Label) {opening closing : List ParseTree}
      (hx : Wrappable parent x) (htokens : ∀ c ∈ opening ++ closing, c.label.named = false) :
      SiblingsAlike parent cs cs' →
        SiblingsAlike parent (x :: cs) (parenthesized w opening closing x :: cs')

namespace SiblingsAlike

variable {parent : Kind} {cs cs' : List ParseTree}

theorem refl (parent : Kind) (cs : List ParseTree) : SiblingsAlike parent cs cs := by
  induction cs with
  | nil => exact nil
  | cons c cs ih => exact alike (LooksLike.refl c) rfl ih

/-- The siblings before a place of an edit stay as they are. -/
theorem append_left (before : List ParseTree) (h : SiblingsAlike parent cs cs') :
    SiblingsAlike parent (before ++ cs) (before ++ cs') := by
  induction before with
  | nil => exact h
  | cons c before ih => exact alike (LooksLike.refl c) rfl ih

/-- What is kept of the children looks alike. -/
theorem kept (h : SiblingsAlike parent cs cs') {p p' : ParseTree} (hp : p.kind = parent)
    (hp' : p'.kind = parent) (hform : parent = .string → p'.form? = p.form?) (b : Bool) :
    List.Forall₂ (Kept.AlikeIn parent) (keptAmong p (Reading.ofCovered b) cs)
      (keptAmong p' (Reading.ofCovered b) cs') := by
  induction h with
  | nil => exact List.Forall₂.nil
  | comment hc _ ih =>
    rw [keptAmong, Reading.ofChild_eq_none (Or.inr hc)]
    exact ih
  | @alike x x' cs cs' hx hfield _ ih =>
    rw [keptAmong, keptAmong, Reading.ofChild_congr (hp'.trans hp.symm) (hp ▸ hform) hx.label]
    cases (Reading.ofCovered b).ofChild p x with
    | none => exact ih
    | some r =>
      refine List.Forall₂.cons ⟨?_, fun _ _ => ?_, hx.kept r⟩ ih
      · rw [Kept.field, Kept.field, tree_kept, tree_kept, hfield]
      · rw [Kept.text?, Kept.text?, tree_kept, tree_kept, hx.kind]
        split_ifs with hid
        · rw [hx.label.text (by rw [show x.label.kind = _ from beq_iff_eq.1 hid]; rfl)]
        · rfl
  | @wrapped x cs cs' w opening closing hx htokens _ ih =>
    have hw : Wrappable p'.kind (parenthesized w opening closing x) :=
      ⟨rfl, by rw [kind_parenthesized]; decide, hp' ▸ hx.not_member, hp' ▸ hx.not_in_string⟩
    rw [keptAmong, keptAmong, Reading.ofChild_of_wrappable (hp ▸ hx),
      Reading.ofChild_of_wrappable hw]
    refine List.Forall₂.cons ⟨?_, fun hattr hmember => ?_, ?_⟩ ih
    · rw [Kept.field, Kept.field, tree_kept, tree_kept]
      rfl
    · rw [Kept.field, tree_kept] at hmember
      exact absurd ⟨hattr, hmember⟩ hx.not_member
    · exact alike_parenthesized w hx.named hx.not_comment htokens b

/-- In a string nothing is put in parentheses, so the named children of one kind stay, comments
apart. -/
theorem filter (h : SiblingsAlike parent cs cs')
    (hparent : parent ∈ [Kind.string, .concatenatedString, .stringContent]) {k : Kind}
    (hk : k ≠ .comment) :
    List.Forall₂ (fun x x' => x.LooksLike x' ∧ x.kind = k)
      (cs.filter fun c => c.label.named && c.kind == k)
        (cs'.filter fun c => c.label.named && c.kind == k) := by
  induction h with
  | nil => exact List.Forall₂.nil
  | @comment c cs cs' hc _ ih =>
    have hne : (c.kind == k) = false := by
      rw [hc, beq_eq_false_iff_ne]
      exact hk.symm
    rw [List.filter_cons, hne, Bool.and_false]
    exact ih
  | @alike x x' cs cs' hx _ _ ih =>
    rw [List.filter_cons, List.filter_cons, hx.label.named, hx.kind]
    split_ifs with hq
    · exact List.Forall₂.cons ⟨hx, beq_iff_eq.1 (Bool.and_eq_true_iff.1 hq).2⟩ ih
    · exact ih
  | wrapped w hx _ _ _ => exact absurd hparent hx.not_in_string

theorem form? (h : SiblingsAlike .string cs cs') (l l' : Label) :
    (node l' cs').form? = (node l cs).form? := by
  have hall := h.filter (by decide) (k := .stringStart) (by decide)
  rw [ParseTree.form?, ParseTree.form?, ← List.head?_filter, ← List.head?_filter, children_node,
    children_node]
  generalize (cs.filter fun c => c.label.named && c.kind == .stringStart) = xs at hall ⊢
  generalize (cs'.filter fun c => c.label.named && c.kind == .stringStart) = xs' at hall ⊢
  cases hall with
  | nil => rfl
  | @cons x x' xs xs' hx _ =>
    rw [List.head?_cons, List.head?_cons, Option.map_some, Option.map_some,
      hx.1.label.text (by rw [show x.label.kind = _ from hx.2]; rfl)]

theorem body (h : SiblingsAlike .string cs cs') (l l' : Label) :
    (node l' cs').body = (node l cs).body := by
  have hall := h.filter (by decide) (k := .stringContent) (by decide)
  rw [ParseTree.body, ParseTree.body, children_node, children_node]
  generalize (cs.filter fun c => c.label.named && c.kind == .stringContent) = xs at hall ⊢
  generalize (cs'.filter fun c => c.label.named && c.kind == .stringContent) = xs' at hall ⊢
  congr 1
  induction hall with
  | nil => rfl
  | @cons x x' xs xs' hx _ ih =>
    rw [List.map_cons, List.map_cons, ih,
      hx.1.label.text (by rw [show x.label.kind = _ from hx.2]; rfl)]

theorem joinedText? (h : SiblingsAlike .concatenatedString cs cs') :
    Syntax.joinedText? (cs'.filter fun c => c.label.named && c.kind == .string) =
      Syntax.joinedText? (cs.filter fun c => c.label.named && c.kind == .string) := by
  have hall := h.filter (by decide) (k := .string) (by decide)
  generalize (cs.filter fun c => c.label.named && c.kind == .string) = xs at hall ⊢
  generalize (cs'.filter fun c => c.label.named && c.kind == .string) = xs' at hall ⊢
  induction hall with
  | nil => rfl
  | cons hx _ ih =>
    rw [Syntax.joinedText?, Syntax.joinedText?, ih,
      plainText?_congr (hx.1.form hx.2) (hx.1.body hx.2)]

/-- Trees look alike when their labels match and their children look alike. -/
theorem looksLike {l l' : Label} (h : SiblingsAlike l.kind cs cs') (hl : l.Matches l') :
    (node l cs).LooksLike (node l' cs') := by
  have hkind : (node l' cs').kind = l.kind := hl.kind
  have hform : l.kind = .string → (node l' cs').form? = (node l cs).form? := by
    intro hk
    rw [hk] at h
    exact h.form? l l'
  refine LooksLike.of_kept hl hform (fun hk => ?_) (fun hk => ?_) fun b => h.kept rfl hkind hform b
  · rw [hk] at h
    exact h.body l l'
  · rw [hk] at h
    exact h.joinedText?

end SiblingsAlike

/-- One edit of the layout changes nothing that a detector sees. -/
theorem LayoutEdit.looksLike {t t' : ParseTree} (h : LayoutEdit t t') :
    t.LooksLike t' ∧ t'.label.field = t.label.field := by
  induction h with
  | comment l before after hc =>
    have hsiblings := ((SiblingsAlike.refl l.kind after).comment hc).append_left before
    exact ⟨hsiblings.looksLike (Label.Matches.refl l), rfl⟩
  | wrap l w before after opening closing hx htokens =>
    have hsiblings := ((SiblingsAlike.refl l.kind after).wrapped w hx htokens).append_left before
    exact ⟨hsiblings.looksLike (Label.Matches.refl l), rfl⟩
  | move hl hfield cs => exact ⟨LooksLike.relabel hl cs, hfield⟩
  | inside l before after _ ih =>
    have hsiblings := ((SiblingsAlike.refl l.kind after).alike ih.1 ih.2).append_left before
    exact ⟨hsiblings.looksLike (Label.Matches.refl l), rfl⟩

/-- Any number of edits, also undone ones, change nothing that a detector sees. -/
theorem looksLike_of_edits {t t' : ParseTree} (h : Relation.EqvGen LayoutEdit t t') :
    t.LooksLike t' := by
  induction h with
  | rel _ _ hedit => exact hedit.looksLike.1
  | refl t => exact LooksLike.refl t
  | symm _ _ _ ih => exact ih.symm
  | trans _ _ _ _ _ ih ih' => exact ih.trans ih'

end Syntax

open Syntax

/-- A parenthesis. -/
def parenthesis (column : Nat) (text : String) : ParseTree :=
  .node { kind := .token, named := false, extent := ⟨⟨0, column⟩, ⟨0, column + 1⟩⟩, text } []

/-- The call `eval((b64decode(x)))` with its function in parentheses and a comment behind it. -/
def coveredEval : ParseTree :=
  .node evalOfDecoded.label
    (ParseTree.parenthesized { kind := .parenthesizedExpression, extent := ⟨⟨0, 0⟩, ⟨0, 6⟩⟩ }
      [parenthesis 0 "("]
        [parenthesis 5 ")"] ((ParseTree.oneLine .identifier 0 4 "eval" []).withField .function) ::
      ParseTree.oneLine .comment 7 12 "# run" [] :: evalOfDecoded.children.tail)

end PythonAudit
