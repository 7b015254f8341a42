import PythonAudit.Proofs.DangerousCall
import PythonAudit.Proofs.DecodeChain
import PythonAudit.Proofs.Origin

/-!
# What detectors see of a tree

A finding says what was found and where. What was found depends on little: the function that a node
calls, the function called around it, and the value of a literal.

* `Finding.message` is a finding without its place;
* `Sighting` is what the detectors see of a node, and `Arena.sightings` lists in order what they see
  of an arena, blank nodes left out;
* `messages_walk` says that the sightings alone decide which messages the detectors of a walk end up
  with;
* `Kept.sightings` finds the sightings by recursion on the kept part of a tree, where the function
  called around a node is handed down, and `sightings_ofTree` says that they are those of the arena.
-/

namespace PythonAudit

open Syntax

/-! ### Messages -/

/-- What a finding says, apart from the place. -/
structure Message where
  detector : String
  severity : Severity
  description : String
  pattern : String
deriving DecidableEq, Repr

/-- A finding without its place. -/
def Finding.message (f : Finding) : Message := ⟨f.detector, f.severity, f.description, f.pattern⟩

/-- What the detectors see of a node: the function that it calls, the function that its semantic
parent calls, and the value of a literal. -/
structure Sighting where
  callee : Option String
  around : Option String
  literal : Option String
deriving DecidableEq, Repr

/-- The message is about a literal of high entropy. -/
def Message.isEntropy (m : Message) : Bool :=
  m.detector == Obfuscation.name && m.severity == .medium

/-- The messages about some literals, each of which takes the next order. -/
def Obfuscation.scoreMessages (t : Thresholds Double) (os : List Rearrangement)
    (values : List String) :
    List Message :=
  (scores t os (values.map fun v => ⟨v, 0, 0⟩)).map Finding.message

namespace Sighting

/-- The node neither calls a function by name nor has a literal value. -/
def isBlank (s : Sighting) : Bool := s.callee.isNone && s.literal.isNone

/-- The sighting, unless it is blank. -/
def noted (s : Sighting) : List Sighting := if s.isBlank then [] else [s]

/-- The message about a call of a dangerous function. -/
def danger? (s : Sighting) : Option Message := do
  let function ← s.callee
  if dangerousFunctions.contains function then
    some (DangerousCalls.report default function).message
  else none

/-- The message about a decoding call whose result is run. -/
def chain? (s : Sighting) : Option Message := do
  let decoder := lastSegment (← s.callee)
  let executor := lastSegment (← s.around)
  if isDecoder decoder && execFunctions.contains executor then
    some (Obfuscation.chainReport default decoder executor).message
  else none

end Sighting

/-- The messages of a detector that has walked an arena with the given sightings. -/
def Detector.messagesFrom (ss : List Sighting) : Detector → List Message
  | .dangerousCalls d => d.findings.map Finding.message ++ ss.filterMap Sighting.danger?
  | .obfuscation d =>
    d.findings.map Finding.message ++ ss.filterMap Sighting.chain? ++
      Obfuscation.scoreMessages d.thresholds d.orders
        (d.pending.map PendingLiteral.value ++ ss.filterMap Sighting.literal)

namespace Syntax.Arena

/-- The function called around a node. -/
def around (a : Arena) (id : Nat) : Option String :=
  ((Context.during a id).semanticParent? id).bind a.callee?

/-- What the detectors see of a node. -/
def sighting (a : Arena) (id : Nat) : Sighting := ⟨a.callee? id, a.around id, a.literal? id⟩

/-- What the detectors see of an arena, in order. -/
def sightings (a : Arena) : List Sighting :=
  (List.range a.size).flatMap fun i => (a.sighting i).noted

theorem filterMap_sightings {β : Type} (a : Arena) {g : Sighting → Option β}
    (hg : ∀ s : Sighting, s.isBlank = true → g s = none) :
    a.sightings.filterMap g = (List.range a.size).filterMap fun i => g (a.sighting i) := by
  rw [sightings]
  induction List.range a.size with
  | nil => rfl
  | cons i ids ih =>
    rw [List.flatMap_cons, List.filterMap_append, ih, List.filterMap_cons, Sighting.noted]
    split_ifs with hblank
    · rw [hg _ hblank, List.filterMap_nil, List.nil_append]
    · cases hi : g (a.sighting i) <;> simp [hi]

end Syntax.Arena

theorem Sighting.isBlank_iff (s : Sighting) :
    s.isBlank = true ↔ s.callee = none ∧ s.literal = none := by
  rw [isBlank, Bool.and_eq_true, Option.isNone_iff_eq_none, Option.isNone_iff_eq_none]

theorem Syntax.Arena.exists_node_of_callee? {a : Arena} {id : Nat} {name : String}
    (h : a.callee? id = some name) :
    ∃ n, a.node? id = some n := by
  unfold Arena.callee? at h
  split_ifs at h with hcall
  obtain ⟨n, hn, -⟩ := Arena.kind?_eq_some_iff.1 ((Arena.isKind_iff a id .call).1 hcall)
  exact ⟨n, hn⟩

theorem DangerousCalls.message_finding? (a : Arena) (id : Nat) :
    (finding? a id).map Finding.message = (a.sighting id).danger? := by
  have hsighting : (a.sighting id).callee = a.callee? id := rfl
  unfold finding? Sighting.danger?
  rw [hsighting]
  cases hcallee : a.callee? id with
  | none => cases a.node? id <;> rfl
  | some name =>
    obtain ⟨n, hn⟩ := Arena.exists_node_of_callee? hcallee
    simp only [hn, Option.bind_eq_bind, Option.bind_some]
    split_ifs
    · simp [Finding.message, report, DangerousCalls.name, callSeverity]
    · rfl

namespace Obfuscation

theorem message_chainFinding? (a : Arena) (id : Nat) :
    (chainFinding? (Context.during a id) id).map Finding.message = (a.sighting id).chain? := by
  have harena : (Context.during a id).arena = a := rfl
  have haround : (a.sighting id).around =
      ((Context.during a id).semanticParent? id).bind a.callee? := rfl
  have hsighting : (a.sighting id).callee = a.callee? id := rfl
  unfold chainFinding? chain? Sighting.chain?
  rw [harena, haround, hsighting]
  cases hcallee : a.callee? id with
  | none => cases a.node? id <;> rfl
  | some name =>
    obtain ⟨n, hn⟩ := Arena.exists_node_of_callee? hcallee
    simp only [hn, Option.bind_eq_bind, Option.bind_some, Option.bind_assoc]
    cases (Context.during a id).semanticParent? id with
    | none => rfl
    | some e =>
      simp only [Option.bind_some]
      cases a.callee? e with
      | none => rfl
      | some outer =>
        simp only [Option.bind_some]
        split_ifs <;> rfl

theorem value_literal? (a : Arena) (id : Nat) :
    (literal? a id).map PendingLiteral.value = (a.sighting id).literal := by
  have hsighting : (a.sighting id).literal = a.literal? id := rfl
  rw [hsighting, literal?, Arena.literal?]
  cases a.node? id with
  | none => rfl
  | some n => simp [Function.comp_def]

theorem message_score (t : Thresholds Double) (o : Rearrangement) (l : PendingLiteral) :
    (score t o l).map Finding.message = (score t o ⟨l.value, 0, 0⟩).map Finding.message := by
  unfold score
  cases t.toFloat.scored? floatArithmetic o l.value.toList <;> rfl

/-- What is said about literals depends on their values alone. -/
theorem map_message_scores (t : Thresholds Double) (os : List Rearrangement)
    (ls : List PendingLiteral) :
    (scores t os ls).map Finding.message = scoreMessages t os (ls.map PendingLiteral.value) := by
  induction ls generalizing os with
  | nil => rfl
  | cons l ls ih =>
    have hfirst := congrArg Option.toList (message_score t (os.headD {}) l)
    rw [Option.toList_map, Option.toList_map] at hfirst
    rw [scores, List.map_append, ih, hfirst]
    simp [scoreMessages, scores]

theorem scoreMessages_eq_of_settled {t : Thresholds Double} {values : List String}
    (h : ∀ v ∈ values, Settled t v) (os os' : List Rearrangement) :
    scoreMessages t os values = scoreMessages t os' values := by
  refine congrArg _ (scores_eq_of_settled ?_ os os')
  simpa using h

theorem isEntropy_of_mem_scoreMessages {t : Thresholds Double} {os : List Rearrangement}
    {values : List String} {m : Message} (h : m ∈ scoreMessages t os values) :
    m.isEntropy = true := by
  obtain ⟨f, hf, rfl⟩ := List.mem_map.1 h
  obtain ⟨l, -, o, hscore⟩ := exists_of_mem_scores hf
  unfold score at hscore
  split at hscore
  next => cases hscore
  next =>
    cases hscore
    rfl

end Obfuscation

/-- The values of the literals are seen in order. -/
theorem Syntax.Arena.filterMap_literal?_eq (a : Arena) :
    (List.range a.size).filterMap a.literal? = a.sightings.filterMap Sighting.literal :=
  (a.filterMap_sightings fun s hs => (s.isBlank_iff.1 hs).2).symm

theorem Syntax.Arena.map_value_literals (a : Arena) :
    a.literals.map PendingLiteral.value = a.sightings.filterMap Sighting.literal := by
  rw [Arena.literals, List.map_filterMap, ← a.filterMap_literal?_eq]
  exact List.filterMap_congr fun i _ => Obfuscation.value_literal? a i

/-- The sightings alone decide which messages the detectors of a walk end up with. -/
theorem messages_walk {a : Arena} {len : Nat → Nat} (h : a.PreOrdered len) (ds : List Detector) :
    (walk a ds).2.map (fun d => d.findings.map Finding.message) =
      ds.map (Detector.messagesFrom a.sightings) := by
  rw [walk_eq h, List.map_map]
  refine List.map_congr_left fun d _ => ?_
  rw [Function.comp_apply]
  cases d with
  | dangerousCalls d =>
    have hdanger : ((List.range a.size).filterMap (DangerousCalls.finding? a)).map Finding.message =
        a.sightings.filterMap Sighting.danger? := by
      rw [List.map_filterMap,
        a.filterMap_sightings fun s hs => by rw [Sighting.danger?, (s.isBlank_iff.1 hs).1]; rfl]
      exact List.filterMap_congr fun i _ => DangerousCalls.message_finding? a i
    rw [DangerousCalls.upTo_eq, Detector.finalize, Detector.findings, Detector.messagesFrom,
      List.map_append, hdanger]
  | obfuscation d =>
    have hchain : ((List.range a.size).filterMap fun i =>
        Obfuscation.chainFinding? (Context.during a i) i).map Finding.message =
          a.sightings.filterMap Sighting.chain? := by
      rw [List.map_filterMap,
        a.filterMap_sightings fun s hs => by rw [Sighting.chain?, (s.isBlank_iff.1 hs).1]; rfl]
      exact List.filterMap_congr fun i _ => Obfuscation.message_chainFinding? a i
    have hliteral : ((List.range a.size).filterMap (Obfuscation.literal? a)).map
      PendingLiteral.value =
        a.sightings.filterMap Sighting.literal := a.map_value_literals
    rw [Obfuscation.upTo_eq, Detector.finalize, Obfuscation.finalize, Detector.findings,
      Detector.messagesFrom, List.map_append, List.map_append, hchain,
      Obfuscation.map_message_scores, List.map_append, hliteral]

/-- Whatever orders a detector has, it says the same of everything but the entropy of literals. -/
theorem Detector.filter_messagesFrom_withOrders (ss : List Sighting) (d : Detector)
    (os : List Rearrangement) :
    ((d.withOrders os).messagesFrom ss).filter (fun m => !m.isEntropy) =
      (d.messagesFrom ss).filter fun m => !m.isEntropy := by
  cases d with
  | dangerousCalls d => rfl
  | obfuscation d =>
    have hnone : ∀ os values, (Obfuscation.scoreMessages d.thresholds os values).filter
        (fun m => !m.isEntropy) = [] := by
      intro os values
      refine List.filter_eq_nil_iff.2 fun m hm => ?_
      rw [Obfuscation.isEntropy_of_mem_scoreMessages hm]
      exact Bool.false_ne_true
    simp only [withOrders, messagesFrom, List.filter_append, hnone]

/-- Whatever orders a detector has, it says the same when all literals are settled. -/
theorem Detector.messagesFrom_withOrders {a : Arena} {d : Detector} (h : d.Settled a)
    (os : List Rearrangement) :
    (d.withOrders os).messagesFrom a.sightings = d.messagesFrom a.sightings := by
  cases d with
  | dangerousCalls d => rfl
  | obfuscation d =>
    refine congrArg (_ ++ ·) (Obfuscation.scoreMessages_eq_of_settled ?_ os d.orders)
    rw [← a.map_value_literals, ← List.map_append]
    exact List.forall_mem_map.2 h

/-- Two searches of lists that match find the same. -/
theorem bind_find?_congr {α β γ : Type} {R : α → β → Prop} {a : α → Bool} {b : β → Bool}
    {p : α → Option γ} {q : β → Option γ} {xs : List α} {ys : List β} (h : List.Forall₂ R xs ys)
    (hab : ∀ x y, R x y → a x = b y) (hpq : ∀ x y, R x y → a x = true → p x = q y) :
    (xs.find? a).bind p = (ys.find? b).bind q := by
  induction h with
  | nil => rfl
  | @cons x y xs ys hxy _ ih =>
    rw [List.find?_cons, List.find?_cons, ← hab x y hxy]
    cases hx : a x with
    | true => exact hpq x y hxy hx
    | false => exact ih

namespace Syntax

/-! ### Sightings by recursion -/

namespace Kept

/-- The role of a kept node in its parent. -/
def field (k : Kept) : Option Field := k.tree.label.field

/-- The text of an identifier. -/
def text? (k : Kept) : Option String :=
  if k.tree.kind == .identifier then some k.tree.label.text else none

/-- The text of the first node in the role of a member. -/
def memberText? (ks : List Kept) : Option String :=
  (ks.find? fun k => k.field == some .member).bind text?

mutual

/-- The segments of the dotted name that a kept node spells. -/
def name? : Kept → Option (List String)
  | node t _ ks =>
    match t.kind with
    | .identifier => some [t.label.text]
    | .attributeAccess => (nameBy? .object ks).bind fun ss => (memberText? ks).map (ss ++ [·])
    | .parenthesizedExpression => onlyName? ks
    | _ => none

/-- The segments of the name that the first node in a given role spells. -/
def nameBy? (f : Field) : List Kept → Option (List String)
  | [] => none
  | k :: ks => if k.field == some f then k.name? else nameBy? f ks

/-- The segments of the name that an only node spells. -/
def onlyName? : List Kept → Option (List String)
  | [k] => k.name?
  | _ => none

end

/-- The dotted name of the function that a kept node calls. -/
def callee? (k : Kept) : Option String :=
  if k.tree.kind = .call then (nameBy? .function k.children).map (String.intercalate ".") else none

/-- The function called around the children of a kept node, when `around` is called around the
node. -/
def aroundChildren (around : Option String) (k : Kept) : Option String :=
  if Context.isGrouping k.tree.kind then around else k.callee?

mutual

/-- What the detectors see of a kept tree, when `around` is called around it. -/
def sightings (around : Option String) : Kept → List Sighting
  | node t r ks =>
    Sighting.noted ⟨(node t r ks).callee?, around, (node t r ks).literal⟩ ++
      sightingsAmong ((node t r ks).aroundChildren around) ks

/-- What the detectors see of several kept trees, when `around` is called around each of them. -/
def sightingsAmong (around : Option String) : List Kept → List Sighting
  | [] => []
  | k :: ks => k.sightings around ++ sightingsAmong around ks

end

section Name

variable {k : Kept}

theorem name?_identifier (h : k.tree.kind = .identifier) : k.name? = some [k.tree.label.text] := by
  cases k with
  | node t r ks =>
    rw [tree_node] at h ⊢
    rw [name?]
    simp only [h]

theorem name?_attribute (h : k.tree.kind = .attributeAccess) :
    k.name? = (nameBy? .object k.children).bind fun ss => (memberText? k.children).map
      (ss ++ [·]) := by
  cases k with
  | node t r ks =>
    rw [tree_node] at h
    rw [name?]
    simp only [h, children_node]

theorem name?_parenthesized (h : k.tree.kind = .parenthesizedExpression) :
    k.name? = onlyName? k.children := by
  cases k with
  | node t r ks =>
    rw [tree_node] at h
    rw [name?]
    simp only [h, children_node]

theorem name?_other (h₁ : k.tree.kind ≠ .identifier) (h₂ : k.tree.kind ≠ .attributeAccess)
    (h₃ : k.tree.kind ≠ .parenthesizedExpression) : k.name? = none := by
  cases k with
  | node t r ks =>
    rw [name?]
    split
    next h => exact absurd h h₁
    next h => exact absurd h h₂
    next h => exact absurd h h₃
    next => rfl

theorem nameBy?_eq (f : Field) (ks : List Kept) :
    nameBy? f ks = (ks.find? fun k => k.field == some f).bind name? := by
  induction ks with
  | nil => rw [nameBy?, List.find?_nil, Option.bind_none]
  | cons k ks ih =>
    rw [nameBy?, List.find?_cons, ih]
    cases k.field == some f <;> rfl

end Name

end Kept

namespace Arena

variable {t : ParseTree} {i : Nat} {k : Kept}

theorem node?_of_kept (h : (t.kept .open).preorder[i]? = some k) :
    (ofTree t).node? i = some (k.toNode i) := by
  rw [node?_ofTree, h, Option.map_some]

/-- The children of a node are the kept children, one by one. -/
theorem forall₂_children (h : (t.kept .open).preorder[i]? = some k) :
    List.Forall₂ (fun c k' => c ∈ (ofTree t).children i ∧ (t.kept .open).preorder[c]? = some k')
      ((ofTree t).children i) k.children := by
  have hplaces : List.Forall₂ (· = ·) (((ofTree t).children i).map ((t.kept .open).preorder[·]?))
      (k.children.map some) := by
    rw [children_ofTree h, (Kept.children_spec h).2, List.forall₂_eq_eq_eq]
  rw [List.forall₂_map_left_iff, List.forall₂_map_right_iff, List.forall₂_iff_zip] at hplaces
  exact List.forall₂_iff_zip.2 ⟨hplaces.1, fun hck => ⟨(List.of_mem_zip hck).1, hplaces.2 hck⟩⟩

/-- What is looked up in the first child in a role is looked up in the first kept child in that
role. -/
theorem bind_childBy?_ofTree {β : Type} (h : (t.kept .open).preorder[i]? = some k) (f : Field)
    {p : Nat → Option β} {q : Kept → Option β}
    (hpq : ∀ c k', c ∈ (ofTree t).children i ∧ (t.kept .open).preorder[c]? = some k' → p c = q k') :
    ((ofTree t).childBy? i f).bind p = (k.children.find? fun k' => k'.field == some f).bind q := by
  refine bind_find?_congr (forall₂_children h) (fun c k' hc => ?_) fun c k' hc _ => hpq c k' hc
  have hpos : c ≠ 0 := by
    rintro rfl
    exact (preOrdered_ofTree t).zero_not_mem_children i hc.1
  rw [node?_of_kept hc.2, Option.any_some, Kept.toNode, if_neg hpos, Kept.field]

theorem text?_of_kept (h : (t.kept .open).preorder[i]? = some k) : (ofTree t).text? i = k.text? :=
  text?_of_node? (node?_of_kept h)

/-- The segments of a name are found by recursion, with enough steps for the numbers that are
left. -/
theorem segmentsWith_ofTree (fuel : Nat) (h : (t.kept .open).preorder[i]? = some k)
    (hfuel : (ofTree t).size ≤ fuel + i) :
    (ofTree t).segmentsWith fuel i = k.name?.map List.reverse := by
  induction fuel generalizing i k with
  | zero =>
    have := lt_size_of_node? (node?_of_kept h)
    omega
  | succ fuel ih =>
    have hn := node?_of_kept h
    have hkind : (k.toNode i).kind = k.tree.kind := rfl
    have hchild : ∀ c k', c ∈ (ofTree t).children i ∧ (t.kept .open).preorder[c]? = some k' →
        (ofTree t).segmentsWith fuel c = k'.name?.map List.reverse := by
      rintro c k' ⟨hc, hk'⟩
      have := (preOrdered_ofTree t).child_bounds hc
      exact ih hk' (by omega)
    by_cases h₁ : k.tree.kind = .identifier
    · rw [segmentsWith_identifier hn (hkind.trans h₁), Kept.name?_identifier h₁]
      simp [Kept.toNode, h₁]
    by_cases h₂ : k.tree.kind = .attributeAccess
    · have hmember : ((ofTree t).childBy? i .member).bind (ofTree t).text? =
          Kept.memberText? k.children :=
        bind_childBy?_ofTree h .member fun c k' hc => text?_of_kept hc.2
      have hobject : ((ofTree t).childBy? i .object).bind ((ofTree t).segmentsWith fuel) =
          (Kept.nameBy? .object k.children).map List.reverse := by
        rw [Kept.nameBy?_eq, Option.map_bind]
        exact bind_childBy?_ofTree h .object hchild
      rw [segmentsWith_attribute hn (hkind.trans h₂), hmember, Kept.name?_attribute h₂]
      cases Kept.memberText? k.children with
      | none => cases Kept.nameBy? .object k.children <;> rfl
      | some s =>
        have hstep :
          (((ofTree t).childBy? i .object).bind ((ofTree t).segmentsWith fuel)).map (s :: ·) =
            (((Kept.nameBy? .object k.children).bind fun ss => (some s).map (ss ++ [·])).map
                List.reverse) := by
          rw [hobject]
          cases Kept.nameBy? .object k.children <;> simp
        rw [← hstep]
        cases (ofTree t).childBy? i .object <;> rfl
    by_cases h₃ : k.tree.kind = .parenthesizedExpression
    · have hall := (forall₂_children h).imp hchild
      rw [segmentsWith_parenthesized hn (hkind.trans h₃), Kept.name?_parenthesized h₃,
        ← children_of_node? hn]
      generalize (ofTree t).children i = cs at hall ⊢
      generalize k.children = ks at hall ⊢
      cases hall with
      | nil => simp [Kept.onlyName?]
      | cons hc hrest =>
        cases hrest with
        | nil => simp only [Kept.onlyName?, hc]
        | cons _ _ => simp [Kept.onlyName?]
    · rw [segmentsWith_other hn (hkind ▸ h₁) (hkind ▸ h₂) (hkind ▸ h₃), Kept.name?_other h₁ h₂ h₃,
        Option.map_none]

theorem segments?_of_kept (h : (t.kept .open).preorder[i]? = some k) :
    (ofTree t).segments? i = k.name? := by
  rw [segments?, segmentsWith_ofTree _ h (Nat.le_add_right _ _)]
  cases k.name? <;> simp

theorem callee?_of_kept (h : (t.kept .open).preorder[i]? = some k) :
    (ofTree t).callee? i = k.callee? := by
  have hcall : (ofTree t).isKind i .call = true ↔ k.tree.kind = .call := by
    rw [isKind_iff, kind?, node?_of_kept h, Option.map_some, Option.some.injEq, Kept.toNode]
  rw [callee?, Kept.callee?]
  simp only [hcall]
  split_ifs
  · rw [Kept.nameBy?_eq, Option.map_bind]
    refine bind_childBy?_ofTree h .function fun c k' hc => ?_
    rw [qualifiedName?, segments?_of_kept hc.2]
    rfl
  · rfl

/-- The function called around a node is handed down by its parent. -/
theorem around_of_mem_children {a : Arena} {len : Nat → Nat} (h : a.PreOrdered len) {p c : Nat}
    (hc : c ∈ a.children p) :
    a.around c = if (a.kind? p).any Context.isGrouping then a.around p else a.callee? p := by
  have hparent : ∀ i e, (Context.during a i).semanticParent? i = some e ↔ a.SemanticParent i e :=
    fun i => Context.semanticParent?_eq_some_iff (x := Context.during a i) h
      (Context.knows_during h i)
  have hgroups := Context.any_isGrouping_iff a p
  split_ifs with hg
  · have hsame : (Context.during a c).semanticParent? c =
        (Context.during a p).semanticParent? p := by
      ext e
      rw [hparent, hparent]
      constructor
      · intro he
        cases he with
        | owner hq hnot =>
          obtain rfl := h.owner_unique hc hq
          exact absurd (hgroups.1 hg) hnot
        | through hq _ he =>
          obtain rfl := h.owner_unique hc hq
          exact he
      · exact SemanticParent.through hc (hgroups.1 hg)
    rw [around, hsame, around]
  · rw [around, (hparent c p).2 (SemanticParent.owner hc (mt hgroups.2 hg)), Option.bind_some]

theorem sighting_of_kept (h : (t.kept .open).preorder[i]? = some k) :
    (ofTree t).sighting i = ⟨k.callee?, (ofTree t).around i, k.literal⟩ := by
  rw [sighting, callee?_of_kept h, literal?_ofTree, h, Option.bind_some]

theorem around_child_of_kept (h : (t.kept .open).preorder[i]? = some k) {c : Nat}
    (hc : c ∈ (ofTree t).children i) :
    (ofTree t).around c = k.aroundChildren ((ofTree t).around i) := by
  rw [around_of_mem_children (preOrdered_ofTree t) hc, kind?, node?_of_kept h, callee?_of_kept h,
    Option.map_some, Option.any_some, Kept.toNode, Kept.aroundChildren]

mutual

/-- A node and what is below it are seen as the kept tree there, with what is called around the
node. -/
theorem sightings_from {t : ParseTree} :
    (k : Kept) → ∀ {i : Nat}, (t.kept .open).preorder[i]? = some k →
    ((List.range' i k.size).flatMap fun j => ((ofTree t).sighting j).noted) =
      k.sightings ((ofTree t).around i)
  | .node s r ks, i, h => by
    have hchildren : ∀ c ∈ numbersFrom (i + 1) (ks.map Kept.size),
        (ofTree t).around c = (Kept.node s r ks).aroundChildren ((ofTree t).around i) := by
      intro c hc
      refine around_child_of_kept h ?_
      rw [children_ofTree h]
      exact hc
    have hbelow : ∀ j, j < Kept.sizes ks →
        (t.kept .open).preorder[i + 1 + j]? = (Kept.preorders ks)[j]? := by
      intro j hj
      rw [Nat.add_right_comm, Nat.add_assoc,
        Kept.preorder_getElem?_add _ h (by rw [Kept.size]; omega), Kept.preorder,
        List.getElem?_cons_succ]
    rw [Kept.size, List.range'_succ, List.flatMap_cons, sighting_of_kept h, Kept.sightings,
      sightings_among ks (i + 1) _ hbelow hchildren]

/-- Siblings and what is below them are seen as the kept trees there. -/
theorem sightings_among {t : ParseTree} :
    (ks : List Kept) → ∀ (first : Nat) (around : Option String),
    (∀ j, j < Kept.sizes ks → (t.kept .open).preorder[first + j]? = (Kept.preorders ks)[j]?) →
    (∀ c ∈ numbersFrom first (ks.map Kept.size), (ofTree t).around c = around) →
      ((List.range' first (Kept.sizes ks)).flatMap fun j => ((ofTree t).sighting j).noted) =
        Kept.sightingsAmong around ks
  | [], first, around, h, haround => by
    rw [Kept.sizes, Kept.sightingsAmong, List.range'_zero, List.flatMap_nil]
  | k :: ks, first, around, h, haround => by
    have hpos := k.size_pos
    have hhead : (t.kept .open).preorder[first]? = some k := by
      have h0 := h 0 (by rw [Kept.sizes]; omega)
      rwa [Kept.preorders, List.getElem?_append_left (by rwa [Kept.length_preorder]),
        Kept.preorder_zero] at h0
    have hrest : ∀ j, j < Kept.sizes ks →
        (t.kept .open).preorder[first + k.size + j]? = (Kept.preorders ks)[j]? := by
      intro j hj
      have hj' := h (k.size + j) (by rw [Kept.sizes]; omega)
      rw [Kept.preorders, List.getElem?_append_right (by rw [Kept.length_preorder]; omega),
        Kept.length_preorder, Nat.add_sub_cancel_left] at hj'
      rw [Nat.add_assoc, hj']
    rw [List.map_cons, numbersFrom, List.forall_mem_cons] at haround
    rw [Kept.sizes, ← List.range'_append_1, List.flatMap_append, sightings_from k hhead, haround.1,
      sightings_among ks _ around hrest haround.2, Kept.sightingsAmong]

end

/-- What the detectors see of the arena of a tree is found by recursion on the kept part of the
tree. -/
theorem sightings_ofTree (t : ParseTree) :
    (ofTree t).sightings = (t.kept .open).sightings none := by
  have hroot : (ofTree t).around 0 = none := rfl
  rw [sightings, List.range_eq_range', size_ofTree, sightings_from _ (Kept.preorder_zero _), hroot]

end Arena

end Syntax

end PythonAudit
