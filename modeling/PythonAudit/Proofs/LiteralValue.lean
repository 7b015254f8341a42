import PythonAudit.Proofs.Origin
import PythonAudit.Proofs.Walk

/-!
# Which nodes carry a literal value

* `ParseTree.strPieces` lists every piece of text in the strings of a tree that are not bytes, and
  `ParseTree.ownPieces` the pieces that one literal value is made of;
* `Arena.AccountsFor` says which nodes carry which values, that the values account for each piece
  once, and that no carrying node stands below another one;
* `literals_account_for_text` says that the arena of every well-shaped tree does so.
-/

namespace PythonAudit

namespace Syntax

/-! ### Pieces of text -/

namespace ParseTree

/-- The child is a piece of text: a segment of a string that is not bytes. -/
def isPiece (parent child : ParseTree) : Bool :=
  child.label.named && parent.kind == .string && child.kind == .stringContent && !parent.isBytes

/-- There may be pieces of text inside the child. Inside a string they are in the interpolations. -/
def mayHoldPieces (parent child : ParseTree) : Bool :=
  child.label.named && child.kind != .comment && parent.kind != .stringContent &&
    (parent.kind != .string || child.kind == .interpolation)

mutual

/-- All pieces of text inside a tree, in source order. -/
def strPieces : ParseTree → List ParseTree
  | node l cs => strPiecesAmong (node l cs) cs

/-- All pieces of text among some children of a tree, in source order. -/
def strPiecesAmong (parent : ParseTree) : List ParseTree → List ParseTree
  | [] => []
  | c :: cs =>
    (if isPiece parent c then [c] else if mayHoldPieces parent c then c.strPieces else []) ++
      strPiecesAmong parent cs

end

/-- The pieces of text that the value of a tree is made of, when it has one. -/
def ownPieces (t : ParseTree) : List ParseTree :=
  match t.kind with
  | .string => t.segments
  | .concatenatedString => t.parts.flatMap segments
  | _ => [t]

/-- The pieces of text that come from one child. -/
def piecesFrom (parent child : ParseTree) : List ParseTree :=
  if isPiece parent child then [child]
  else if mayHoldPieces parent child then child.strPieces
  else []

theorem strPieces_eq (t : ParseTree) : t.strPieces = t.children.flatMap (piecesFrom t) := by
  have hall : ∀ parent cs, strPiecesAmong parent cs = cs.flatMap (piecesFrom parent) := by
    intro parent cs
    induction cs with
    | nil => rw [strPiecesAmong, List.flatMap_nil]
    | cons c cs ih => rw [strPiecesAmong, ih, List.flatMap_cons, piecesFrom]
  cases t with
  | node l cs => rw [strPieces, hall, children_node]

/-- What holds of a tree whenever it holds of its children holds of every tree. -/
theorem induction_on_children {P : ParseTree → Prop} (h : ∀ t, (∀ c ∈ t.children, P c) → P t) :
    ∀ t, P t
  | node l cs => h _ fun c hc => by
    have hlt : sizeOf c < 1 + sizeOf l + sizeOf cs := by
      have hmem := List.sizeOf_lt_of_mem hc
      simp only [children_node] at hmem
      omega
    exact induction_on_children h c

end ParseTree

theorem flatMap_filter_eq {α β : Type} (p : α → Bool) (f : α → List β) (l : List α) :
    (l.filter p).flatMap f = l.flatMap fun a => if p a then f a else [] := by
  induction l with
  | nil => rfl
  | cons a l ih =>
    rw [List.filter_cons, List.flatMap_cons, ← ih]
    cases p a <;> simp

namespace Kept

/-- The tree of a kept node that carries a value. -/
def carrier? (k : Kept) : Option ParseTree := k.literal.map fun _ => k.tree

/-- The pieces of text that the values below a kept node are made of. -/
def carried (k : Kept) : List ParseTree :=
  (k.preorder.filterMap carrier?).flatMap ParseTree.ownPieces

theorem carried_eq (k : Kept) :
    k.carried = k.carrier?.toList.flatMap ParseTree.ownPieces ++ k.children.flatMap carried := by
  have hall : ∀ ks, ((preorders ks).filterMap carrier?).flatMap ParseTree.ownPieces =
      ks.flatMap carried := by
    intro ks
    induction ks with
    | nil => rw [preorders, List.filterMap_nil, List.flatMap_nil, List.flatMap_nil]
    | cons k ks ih =>
      rw [preorders, List.filterMap_append, List.flatMap_append, ih, List.flatMap_cons, carried]
  cases k with
  | node t r ks =>
    rw [children_node, ← hall, carried, preorder, List.filterMap_cons]
    cases carrier? (node t r ks) <;> simp

end Kept

/-- The pieces of text that are accounted for at a node with a given reading and below it. -/
def Reading.pieces (t : ParseTree) : Reading → List ParseTree
  | .open => t.strPieces
  | .given _ => [t]
  | .covered => []

namespace ParseTree

theorem strPieces_eq_filter {t : ParseTree} (p : ParseTree → Bool)
    (h : ∀ c ∈ t.children, piecesFrom t c = if p c then [c] else []) :
    t.strPieces = t.children.filter p := by
  rw [strPieces_eq, List.flatMap_congr h, ← flatMap_filter_eq, List.flatMap_singleton']

/-- A plain string is made of its segments. -/
theorem strPieces_of_isPlain {t : ParseTree} (h : t.StringShape) (hk : t.kind = .string)
    (hp : t.isPlain = true) :
    t.strPieces = t.segments := by
  refine strPieces_eq_filter _ fun c hc => ?_
  have hformat := isFormat_of_isPlain hp
  have hbytes : t.isBytes = false := by simp_all [isPlain]
  cases hnamed : c.label.named with
  | false => simp [piecesFrom, isPiece, mayHoldPieces, hnamed]
  | true =>
    have hno := h.kind_ne_interpolation hk hformat hc hnamed
    simp [piecesFrom, isPiece, mayHoldPieces, hnamed, hk, hbytes, hno]

/-- A concatenation of plain strings is made of the segments of its parts. -/
theorem strPieces_of_isJoined {t : ParseTree} (h : t.WellShaped) (hk : t.kind = .concatenatedString)
    (hj : t.isJoined = true) : t.strPieces = t.parts.flatMap segments := by
  rw [strPieces_eq, parts, flatMap_filter_eq]
  refine List.flatMap_congr fun c hc => ?_
  cases hnamed : c.label.named with
  | false => simp [piecesFrom, isPiece, mayHoldPieces, hnamed]
  | true =>
    rcases h.root.2 hk c hc hnamed with hcs | hcc
    · have hplain := List.all_eq_true.1 hj c (mem_parts.2 ⟨hc, hnamed, hcs⟩)
      rw [← strPieces_of_isPlain (h.child hc).root hcs hplain]
      simp [piecesFrom, isPiece, mayHoldPieces, hnamed, hk, hcs]
    · simp [piecesFrom, isPiece, mayHoldPieces, hnamed, hk, hcc]

/-- Below a node that is looked at by itself and has no value, each child accounts for its own
pieces. -/
theorem pieces_ofChild_open {t : ParseTree} (h : t.kind = .string → t.isFormat = !t.isBytes)
    (c : ParseTree) :
    ((Reading.open.ofChild t c).elim [] fun r => r.pieces c) = piecesFrom t c := by
  cases hread : Reading.open.ofChild t c with
  | some r =>
    obtain ⟨hnamed, hcomment, hcontent, ⟨hk, rfl⟩ | ⟨hk, hci, rfl⟩ | ⟨hk, hcs, hformat, rfl⟩⟩ :=
      Reading.ofChild_cases hread
    · simp [Reading.pieces, piecesFrom, isPiece, mayHoldPieces, *]
    · simp [Reading.pieces, piecesFrom, isPiece, mayHoldPieces, *]
    · have hbytes : t.isBytes = false := by simpa [hformat] using h hk
      simp [Reading.pieces, piecesFrom, isPiece, hnamed, hk, hcs, hbytes]
  | none =>
    have hkeeps := Reading.isSome_ofChild false t c
    rw [Reading.ofCovered, hread, Option.isSome_none] at hkeeps
    have hpiece : isPiece t c = false := by
      rw [Bool.eq_false_iff]
      intro hpiece
      simp only [isPiece, Bool.and_eq_true, beq_iff_eq, Bool.not_eq_true'] at hpiece
      obtain ⟨⟨⟨hnamed, hk⟩, hcs⟩, hbytes⟩ := hpiece
      simp [keeps, hnamed, hk, hcs, h hk, hbytes] at hkeeps
    have hhold : mayHoldPieces t c = false := by
      rw [Bool.eq_false_iff]
      intro hhold
      simp only [mayHoldPieces, Bool.and_eq_true, Bool.or_eq_true] at hhold
      rcases hhold with ⟨⟨⟨hnamed, hcomment⟩, hcontent⟩, hk | hci⟩ <;> simp [keeps, *] at hkeeps
    rw [Option.elim_none, piecesFrom, hpiece, hhold]
    rfl

/-- Below a node that belongs to a literal with a value nothing is left to account for. -/
theorem pieces_ofChild_covered {t c : ParseTree} (h : t.StringShape)
    (hformat : t.kind = .string → t.isFormat = false) (hc : c ∈ t.children) :
    ((Reading.covered.ofChild t c).elim [] fun r => r.pieces c) = [] := by
  cases hread : Reading.covered.ofChild t c with
  | none => rfl
  | some r =>
    obtain ⟨hnamed, -, -, ⟨-, rfl⟩ | ⟨hk, hci, -⟩ | ⟨hk, -, hyes, -⟩⟩ := Reading.ofChild_cases hread
    · rfl
    · exact absurd hci (h.kind_ne_interpolation hk (hformat hk) hc hnamed)
    · rw [hformat hk] at hyes
      cases hyes

/-- A tree with a value of its own is made of all the pieces inside it. -/
theorem ownPieces_of_ownValue? {t : ParseTree} (h : t.WellShaped) {v : String}
    (hv : t.ownValue? = some v) :
    t.ownPieces = t.strPieces := by
  obtain ⟨hk, hp, -⟩ | ⟨hk, hj, -⟩ := (ownValue?_eq_some_iff h v).1 hv
  · rw [strPieces_of_isPlain h.root hk hp, ownPieces, hk]
  · rw [strPieces_of_isJoined h hk hj, ownPieces, hk]

end ParseTree

theorem ParseTree.carrier?_kept (r : Reading) (t : ParseTree) :
    (t.kept r).carrier? = (r.resolve t).1.map fun _ => t := by
  rw [Kept.carrier?, Kept.literal, ParseTree.reading_kept, ParseTree.tree_kept]

/-- The pieces below a node are those of its kept children. -/
theorem ParseTree.carried_children_kept {t : ParseTree} {r : Reading}
    (h : ∀ c ∈ t.children, ∀ r', (r.resolve t).2.ofChild t c = some r' →
      (c.kept r').carried = r'.pieces c) :
    (t.kept r).children.flatMap Kept.carried =
      t.children.flatMap fun c => ((r.resolve t).2.ofChild t c).elim [] fun r' => r'.pieces c := by
  rw [ParseTree.children_kept, List.filterMap_eq_flatMap_toList, List.flatMap_assoc]
  refine List.flatMap_congr fun c hc => ?_
  cases hread : (r.resolve t).2.ofChild t c with
  | none => rfl
  | some r' => simpa using h c hc r' hread

/-- The values at a node and below it account for the pieces of text that its reading leaves to
them. -/
theorem ParseTree.carried_kept (t : ParseTree) :
    ∀ r : Reading, t.WellShaped → r.Fits t → (t.kept r).carried = r.pieces t := by
  induction t using ParseTree.induction_on_children with
  | h t ih =>
    intro r h hr
    have hbelow := ParseTree.carried_children_kept (t := t) (r := r) fun c hc r' hread =>
      ih c hc r' (h.child hc) (Reading.ofChild_resolve h hr hc hread).fits
    -- whatever has a value, or belongs to a literal that has one, leaves nothing to the nodes below
    -- it
    have hcovered (hformat : t.kind = .string → t.isFormat = false) :
        (t.children.flatMap fun c =>
          (Reading.covered.ofChild t c).elim [] fun r' => r'.pieces c) = [] :=
      List.flatMap_eq_nil_iff.2 fun c hc => ParseTree.pieces_ofChild_covered h.root hformat hc
    rw [Kept.carried_eq, ParseTree.carrier?_kept, hbelow]
    cases hr with
    | segment v hk =>
      simp only [Reading.resolve]
      rw [hcovered (by simp [hk])]
      simp [Reading.pieces, ParseTree.ownPieces, hk]
    | part hk hp => exact hcovered fun _ => ParseTree.isFormat_of_isPlain hp
    | afresh =>
      rw [Reading.resolve_open]
      cases hv : t.ownValue? with
      | none =>
        have hformat := ParseTree.isFormat_of_ownValue?_eq_none h.root hv
        show (t.children.flatMap fun c => _) = t.strPieces
        rw [ParseTree.strPieces_eq]
        exact List.flatMap_congr fun c _ => ParseTree.pieces_ofChild_open hformat c
      | some v =>
        have hbelow' := hcovered (ParseTree.isFormat_of_ownValue?_eq_some h.root hv)
        simp only [Option.isSome_some, Reading.ofCovered]
        rw [hbelow']
        simp [Reading.pieces, ParseTree.ownPieces_of_ownValue? h hv]

/-! ### Literals of an arena -/

namespace Arena

/-- The literal values of the arena account for the text of the strings in the tree. -/
structure AccountsFor (a : Arena) (t : ParseTree) : Prop where
  /-- Every node comes from one tree, and its children from the kept children of that tree. -/
  origin : ∀ i < a.size, ∃! s, a.Origin t i s
  children : ∀ i s, a.Origin t i s → List.Forall₂ (a.Origin t) (a.children i) s.keptChildren
  /-- A plain string outside a concatenation carries its decoded text. -/
  plain : ∀ i s, a.Origin t i s → s.kind = .string → s.isPlain = true →
    (∀ p, i ∈ a.children p → a.kind? p ≠ some .concatenatedString) → a.literal? i = some s.strText
  /-- A concatenation of plain strings carries the joined text, and its parts carry none. -/
  joined : ∀ i s, a.Origin t i s → s.kind = .concatenatedString → s.isJoined = true →
    a.literal? i = some (String.join (s.parts.map ParseTree.strText)) ∧ ∀ c ∈ a.children i,
      a.literal? c = none
  /-- Any other concatenation carries none, and its parts are read as if they stood alone. -/
  mixed : ∀ i s, a.Origin t i s → s.kind = .concatenatedString → s.isJoined = false →
    a.literal? i = none ∧ List.Forall₂ (fun c u => a.Origin t c u ∧ a.ReadsAlone c u)
      (a.children i) s.parts
  /-- A format string carries none, and each of its segments carries its own text. -/
  format : ∀ i s, a.Origin t i s → s.kind = .string → s.isFormat = true →
    a.literal? i = none ∧ ∀ c ∈ a.children i, ∀ u, a.Origin t c u → u.kind = .stringContent →
      a.literal? c = some (s.segmentText u)
  /-- Bytes carry none, and nothing in them is kept. -/
  bytes : ∀ i s, a.Origin t i s → s.kind = .string → s.isBytes = true →
    a.literal? i = none ∧ a.children i = []
  /-- What is inside an interpolation is read as if it stood alone. -/
  interpolation : ∀ i s, a.Origin t i s → s.kind = .interpolation → a.ReadsAlone i s
  /-- Nothing else carries a value, and nothing carries another value. -/
  carrier : ∀ i s v, a.Origin t i s → a.literal? i = some v →
    (s.kind = .string ∧ s.isPlain = true ∧ v = s.strText) ∨
      (s.kind = .concatenatedString ∧ s.isJoined = true ∧
        v = String.join (s.parts.map ParseTree.strText)) ∨
      (s.kind = .stringContent ∧ ∃ p u, i ∈ a.children p ∧ a.Origin t p u ∧ u.kind = .string ∧
        u.isFormat = true ∧ v = u.segmentText s)
  /-- The carrying nodes in order are made of the pieces of text in order, each of them once. -/
  pieces : ∃ ids ss, ids.Pairwise (· < ·) ∧ (∀ i, i ∈ ids ↔ (a.literal? i).isSome = true) ∧
    List.Forall₂ (a.Origin t) ids ss ∧ ss.flatMap ParseTree.ownPieces = t.strPieces
  /-- No carrying node stands below another one. -/
  apart : ∀ i j, (a.literal? i).isSome = true → (a.literal? j).isSome = true → a.Under i j → i = j

section Literals

variable {t s : ParseTree} {i : Nat}

theorem lt_size_of_literal? {a : Arena} {v : String} (h : a.literal? i = some v) : i < a.size := by
  obtain ⟨n, hn, -⟩ := Option.bind_eq_some_iff.1 h
  exact lt_size_of_node? hn

/-- The nodes that carry a value, by the trees they come from, and their values. -/
theorem Origin.carrier_cases (h : t.WellShaped) (ho : (ofTree t).Origin t i s) {v : String}
    (hv : (ofTree t).literal? i = some v) :
    (s.kind = .string ∧ s.isPlain = true ∧ v = s.strText) ∨
      (s.kind = .concatenatedString ∧ s.isJoined = true ∧
        v = String.join (s.parts.map ParseTree.strText)) ∨
      (s.kind = .stringContent ∧ ∃ p u,
        i ∈ (ofTree t).children p ∧ (ofTree t).Origin t p u ∧ u.kind = .string ∧
        u.isFormat = true ∧ v = u.segmentText s) := by
  obtain ⟨r, hplaced, hr⟩ := ho.placed h
  cases r with
  | covered =>
    rw [hplaced.literal] at hv
    cases hv
  | «open» =>
    rw [hplaced.literal_open, ParseTree.ownValue?_eq_some_iff hplaced.shaped] at hv
    rcases hv with hplain | hjoined
    · exact Or.inl hplain
    · exact Or.inr (Or.inl hjoined)
  | given w =>
    obtain hopen | ⟨p, u, hp, hu, hchild⟩ := hr
    · cases hopen
    · cases hchild with
      | segment hk hf hs =>
        rw [hplaced.literal] at hv
        exact Or.inr (Or.inr ⟨hs, p, u, hp, hu, hk, hf, (Option.some.inj hv).symm⟩)

theorem Origin.literal_of_isPlain (h : t.WellShaped) (ho : (ofTree t).Origin t i s)
    (hk : s.kind = .string) (hp : s.isPlain = true)
    (hout : ∀ p, i ∈ (ofTree t).children p → (ofTree t).kind? p ≠ some .concatenatedString) :
    (ofTree t).literal? i = some s.strText := by
  obtain ⟨r, hplaced, hr⟩ := ho.placed h
  have hopen : r = .open := by
    obtain hopen | ⟨p, u, hip, hu, hchild⟩ := hr
    · exact hopen
    · cases hchild with
      | afresh => rfl
      | segment _ _ hs =>
        rw [hk] at hs
        cases hs
      | part hcat _ _ _ =>
        obtain ⟨_, hplaced', -⟩ := hu.placed h
        exact absurd (hcat ▸ hplaced'.kind) (hout p hip)
  subst hopen
  rw [hplaced.literal_open, ParseTree.ownValue?_of_string hplaced.shaped.root hk, if_pos hp]

theorem Origin.literal_of_isJoined (h : t.WellShaped) (ho : (ofTree t).Origin t i s)
    (hk : s.kind = .concatenatedString) (hj : s.isJoined = true) :
    (ofTree t).literal? i = some (String.join (s.parts.map ParseTree.strText)) ∧
      ∀ c ∈ (ofTree t).children i, (ofTree t).literal? c = none := by
  obtain ⟨r, hplaced, -⟩ := ho.placed h
  obtain rfl := hplaced.reading_eq_open (by simp [hk]) (by simp [hk])
  refine ⟨?_, fun c hc => ?_⟩
  · rw [hplaced.literal_open, ParseTree.ownValue?_of_concatenatedString hplaced.shaped hk,
      if_pos hj]
  · obtain ⟨u, -, -, r', hplaced', hchild⟩ := ho.of_mem_children h hc
    cases hchild with
    | afresh hnot _ =>
      rw [hnot hk] at hj
      cases hj
    | segment hstring _ _ =>
      rw [hk] at hstring
      cases hstring
    | part => exact hplaced'.literal

theorem Origin.literal_of_not_isJoined (h : t.WellShaped) (ho : (ofTree t).Origin t i s)
    (hk : s.kind = .concatenatedString) (hj : s.isJoined = false) :
    (ofTree t).literal? i = none ∧
      List.Forall₂ (fun c u => (ofTree t).Origin t c u ∧ (ofTree t).ReadsAlone c u)
        ((ofTree t).children i) s.parts := by
  obtain ⟨r, hplaced, -⟩ := ho.placed h
  obtain rfl := hplaced.reading_eq_open (by simp [hk]) (by simp [hk])
  refine ⟨?_, ?_⟩
  · rw [hplaced.literal_open, ParseTree.ownValue?_of_concatenatedString hplaced.shaped hk, hj]
    rfl
  · rw [← ParseTree.keptChildren_of_concatenatedString hplaced.shaped.root hk]
    refine (ho.children h).imp fun c u hcu => ?_
    obtain ⟨hu, r', hplaced', hchild⟩ := hcu
    cases hchild with
    | afresh => exact ⟨hu, hplaced'.readsAlone⟩
    | segment hstring _ _ =>
      rw [hk] at hstring
      cases hstring
    | part _ hjoined _ _ =>
      rw [hj] at hjoined
      cases hjoined

/-- A string that is not plain carries no value. -/
theorem Origin.literal_of_not_isPlain (h : t.WellShaped) (ho : (ofTree t).Origin t i s)
    (hk : s.kind = .string) (hp : s.isPlain = false) : (ofTree t).literal? i = none := by
  obtain ⟨r, hplaced, -⟩ := ho.placed h
  obtain rfl := hplaced.reading_eq_open (by simp [hk]) (fun _ => hp)
  rw [hplaced.literal_open, ParseTree.ownValue?_of_string hplaced.shaped.root hk, hp]
  rfl

theorem Origin.literal_of_segment (h : t.WellShaped) (ho : (ofTree t).Origin t i s)
    (hk : s.kind = .string) {c : Nat} (hc : c ∈ (ofTree t).children i) {u : ParseTree}
    (hu : (ofTree t).Origin t c u) (hcontent : u.kind = .stringContent) :
    (ofTree t).literal? c = some (s.segmentText u) := by
  obtain ⟨u', -, hu', r, hplaced, hchild⟩ := ho.of_mem_children h hc
  obtain rfl := hu.eq h hu'
  cases hchild with
  | afresh _ hinter =>
    rw [hinter hk] at hcontent
    cases hcontent
  | segment => exact hplaced.literal
  | part hcat _ _ _ =>
    rw [hk] at hcat
    cases hcat

/-- Below a node that carries a value no node carries one. -/
theorem eq_of_under_of_literal (h : t.WellShaped) {j : Nat}
    (hi : ((ofTree t).literal? i).isSome = true) (hj : ((ofTree t).literal? j).isSome = true)
    (hunder : (ofTree t).Under i j) : i = j := by
  obtain ⟨v, hv⟩ := Option.isSome_iff_exists.1 hi
  obtain ⟨s, hs, -⟩ := existsUnique_origin h (lt_size_of_literal? hv)
  obtain rfl | ⟨c, hc, hcj⟩ := Relation.ReflTransGen.cases_head hunder
  · rfl
  · exfalso
    obtain ⟨r, hplaced, -⟩ := hs.placed h
    -- a plain string and a segment have no children, a joined concatenation has parts without
    -- children
    obtain ⟨hk, hp, -⟩ | ⟨hk, hjoined, -⟩ | ⟨hk, -⟩ := hs.carrier_cases h hv
    · rw [hs.children_eq_nil h (ParseTree.keptChildren_of_string hplaced.shaped.root hk
        (ParseTree.isFormat_of_isPlain hp))] at hc
      cases hc
    · have hnone := (hs.literal_of_isJoined h hk hjoined).2 c hc
      obtain ⟨u, hu, huo, -⟩ := hs.of_mem_children h hc
      rw [ParseTree.keptChildren_of_concatenatedString hplaced.shaped.root hk] at hu
      obtain ⟨humem, -, huk⟩ := ParseTree.mem_parts.1 hu
      have hleaf := huo.children_eq_nil h
        (ParseTree.keptChildren_of_string (hplaced.shaped.child humem).root huk
        (ParseTree.isFormat_of_isPlain (List.all_eq_true.1 hjoined u hu)))
      obtain rfl | ⟨d, hd, -⟩ := Relation.ReflTransGen.cases_head hcj
      · rw [hnone] at hj
        cases hj
      · rw [hleaf] at hd
        cases hd
    · rw [hs.children_eq_nil h (ParseTree.keptChildren_of_stringContent hk)] at hc
      cases hc

theorem range_filterMap_getElem? {α β : Type} (f : α → Option β) (l : List α) :
    (List.range l.length).filterMap (fun i => l[i]?.bind f) = l.filterMap f := by
  induction l with
  | nil => rfl
  | cons a l ih =>
    rw [List.length_cons, List.range_succ_eq_map, List.filterMap_cons, List.filterMap_map,
      List.filterMap_cons, ← ih]
    rfl

/-- The nodes that carry a value, in order, are made of the pieces of text, in order. -/
theorem exists_carriers (h : t.WellShaped) :
    ∃ ids ss, ids.Pairwise (· < ·) ∧ (∀ i, i ∈ ids ↔ ((ofTree t).literal? i).isSome = true) ∧
      List.Forall₂ ((ofTree t).Origin t) ids ss ∧ ss.flatMap ParseTree.ownPieces = t.strPieces := by
  obtain ⟨ids, hsorted, hmem, hall⟩ :=
    exists_reported (fun i => (t.kept .open).preorder[i]?.bind Kept.carrier?)
      (t.kept .open).preorder.length
  rw [range_filterMap_getElem?] at hall
  refine ⟨ids, _, hsorted, fun i => ?_, hall.imp fun i s his => ?_, ?_⟩
  · rw [hmem, literal?_ofTree]
    cases hk : (t.kept .open).preorder[i]? with
    | none => simp
    | some k =>
      have hi : i < (t.kept .open).size :=
        Kept.length_preorder _ ▸ (List.getElem?_eq_some_iff.1 hk).1
      simp [hi, Kept.carrier?, Option.isSome_iff_exists]
  · obtain ⟨k, hk, hcarrier⟩ := Option.bind_eq_some_iff.1 his
    obtain ⟨v, -, rfl⟩ := Option.map_eq_some_iff.1 hcarrier
    obtain ⟨s, hs, -⟩ :=
      existsUnique_origin h (lt_size_of_node? (by rw [node?_ofTree, hk, Option.map_some]))
    obtain ⟨r, hplaced, -⟩ := hs.placed h
    obtain rfl : k = s.kept r := Option.some.inj (hk.symm.trans hplaced.kept)
    rwa [ParseTree.tree_kept]
  · exact ParseTree.carried_kept t .open h Reading.Fits.afresh

end Literals

end Arena

/-- A string in a source text of one line, with its opening and what follows it. -/
def stringOnLine (start stop : Nat) (opening : String) (cs : List ParseTree) : ParseTree :=
  ParseTree.oneLine .string start stop ""
    (ParseTree.oneLine .stringStart start (start + opening.length) opening [] :: cs)

/-- A format string next to a plain one; in its two interpolations stand a concatenation of plain
strings and bytes. -/
def nestedStrings : ParseTree :=
  ParseTree.oneLine .concatenatedString 0 23 "" [
    stringOnLine 0 19 "f\"" [
      ParseTree.oneLine .stringContent 2 3 "a" [],
      ParseTree.oneLine .interpolation 3 12 "" [
        ParseTree.oneLine .concatenatedString 4 11 "" [
          stringOnLine 4 7 "'" [ParseTree.oneLine .stringContent 5 6 "b" []],
          stringOnLine 8 11 "'" [ParseTree.oneLine .stringContent 9 10 "c" []]]],
      ParseTree.oneLine .interpolation 12 18 "" [
        stringOnLine 13 17 "b'" [ParseTree.oneLine .stringContent 15 16 "d" []]]],
    stringOnLine 20 23 "\"" [ParseTree.oneLine .stringContent 21 22 "e" []]]

/-- **The literal values of an arena account for the text of its strings**: every piece of text is
in one value, and nothing else is. -/
theorem literals_account_for_text (t : ParseTree) (h : t.WellShaped) :
    (Arena.ofTree t).AccountsFor t where
  origin := fun i hi => Arena.existsUnique_origin h hi
  children := fun i s hs => (hs.children h).imp fun c u hcu => hcu.1
  plain := fun i s hs hk hp hout => hs.literal_of_isPlain h hk hp hout
  joined := fun i s hs hk hj => hs.literal_of_isJoined h hk hj
  mixed := fun i s hs hk hj => hs.literal_of_not_isJoined h hk hj
  format := by
    intro i s hs hk hf
    refine ⟨hs.literal_of_not_isPlain h hk (by simp [ParseTree.isPlain, hf]),
      fun c hc u hu hcontent => ?_⟩
    exact hs.literal_of_segment h hk hc hu hcontent
  bytes := by
    intro i s hs hk hb
    obtain ⟨r, hplaced, -⟩ := hs.placed h
    have hformat := (hplaced.shaped.root.1 hk).2.1 hb
    exact ⟨hs.literal_of_not_isPlain h hk (by simp [ParseTree.isPlain, hb]),
      hs.children_eq_nil h (ParseTree.keptChildren_of_string hplaced.shaped.root hk hformat)⟩
  interpolation := by
    intro i s hs hk
    obtain ⟨r, hplaced, -⟩ := hs.placed h
    obtain rfl := hplaced.reading_eq_open (by simp [hk]) (by simp [hk])
    exact hplaced.readsAlone
  carrier := fun i s v hs hv => hs.carrier_cases h hv
  pieces := Arena.exists_carriers h
  apart := fun i j hi hj hunder => Arena.eq_of_under_of_literal h hi hj hunder

theorem literals_account_for_nestedStrings :
    nestedStrings.WellShaped ∧ (Arena.ofTree nestedStrings).AccountsFor nestedStrings ∧
      (Arena.ofTree nestedStrings).nodes.toList.filterMap Node.literal = ["a", "bc", "e"] :=
  ⟨by decide, literals_account_for_text nestedStrings (by decide), by decide +kernel⟩

end Syntax

end PythonAudit
