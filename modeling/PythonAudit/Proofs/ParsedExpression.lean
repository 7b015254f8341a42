import PythonAudit.Concrete.Grammar
import PythonAudit.Proofs.TreeGrammar

/-!
# Expressions are read as regular trees

Every part of the expression grammar builds regular trees, given a parser for its recursive parts
that does. There is one lemma `builds_…` for each part, and `reads_parse` puts them together by
induction on the depth.
-/

namespace PythonAudit

namespace Concrete

open Syntax Concrete.Parser ParseTree

/-- The goal asks for a node that may hold any regular trees. -/
def Goal.plain : Goal → Bool
  | .interpolation kind => plainKind kind
  | _ => true

/-- A parser that reads goals as regular trees. -/
def Reads (self : Goal → Parser ParseTree) : Prop :=
  ∀ g : Goal, g.plain = true → Builds (self g) Regular

section

variable {self : Goal → Parser ParseTree}

/-! ### Lists of expressions -/

theorem builds_items (h : Reads self) (lead : Wanted) (follow : Follow) :
    Builds (items self lead follow) fun r => AllRegular r.1 := by
  refine (h _ rfl).bind fun first hfirst => ?_
  refine builds_iterate (I := AllRegular) (by simp [hfirst]) fun acc hacc => ?_
  refine .next fun comma => ?_
  cases comma with
  | none => exact builds_pure (by simp [hacc])
  | some _ =>
    refine .next fun a => .ite ?_ ?_
    · exact (h _ rfl).collect hacc
    · exact builds_pure (by simp [hacc])

theorem builds_expressions (h : Reads self) (lead : Wanted) (follow : Follow) :
    Builds (expressions self lead follow) Regular := by
  refine .next fun a => (builds_items h lead follow).bind fun r hr => ?_
  split
  next => exact builds_pure (by simpa using hr)
  next => exact builds_nodeFrom rfl hr

theorem builds_yieldExpression (h : Reads self) (lead : Wanted) (follow : Follow) :
    Builds (yieldExpression self lead follow) Regular := by
  refine .next fun word => .next fun a => .ite ?_ (.ite ?_ ?_)
  · exact .next fun _ => (h _ rfl).bind fun e he => builds_nodeFrom rfl (by simp [he])
  · exact (builds_expressions h _ follow).bind fun e he => builds_nodeFrom rfl (by simp [he])
  · exact builds_nodeFrom rfl (by simp)

theorem builds_yieldOrExpressions (h : Reads self) (lead : Wanted) (follow : Follow) :
    Builds (yieldOrExpressions self lead follow) Regular :=
  .next fun _ => .ite (builds_yieldExpression h lead follow) (builds_expressions h lead follow)

/-! ### Strings -/

theorem builds_formatSpecifier (h : Reads self) : Builds (formatSpecifier self) Regular := by
  refine .next fun colon => builds_iterate (I := AllRegular) (by simp) fun acc hacc => ?_
  refine .next fun s => .ite ?_ (.next fun a => .ite ?_ (.ite ?_ (.ite builds_failAt ?_)))
  · exact .next fun _ => builds_pure hacc
  · exact .next fun _ => (h (.interpolation .formatExpression) rfl).collect hacc
  · exact (builds_nodeFrom rfl (by simp [hacc])).finish
  · exact .next fun _ => builds_pure hacc

theorem builds_interpolation (h : Reads self) {kind : Kind} (hk : plainKind kind = true) :
    Builds (interpolation self kind) Regular := by
  refine .next fun a => ?_
  extract_lets rest
  have hrest : ∀ brace, Builds (rest brace) Regular := by
    intro brace
    refine (builds_yieldOrExpressions h _ _).bind fun e he => .next fun _ => .next fun b => ?_
    extract_lets rest'
    have hrest' : ∀ conversion, AllRegular conversion → Builds (rest' conversion) Regular := by
      intro conversion hconversion
      refine .next fun c => ?_
      extract_lets finish
      have hfinish : ∀ specifier, AllRegular specifier →
          Builds (finish specifier) Regular := fun specifier hs =>
        .next fun _ => builds_nodeFrom hk (by simp [he, hconversion, hs])
      refine .ite ((builds_formatSpecifier h).bind fun t ht => ?_) ?_
      · exact builds_pure_bind (hfinish _ (by simp [ht]))
      · exact builds_pure_bind (hfinish _ (by simp))
    split
    next =>
      exact .ite (.next fun _ => builds_pure_bind (hrest' _ (by simp))) (builds_failAt.bind hrest')
    next => exact builds_pure_bind (hrest' _ (by simp))
  exact .ite (.next hrest) (.next hrest)

theorem builds_contentFrom (start : Cursor) : Builds (contentFrom start) AllRegular := by
  refine .next fun _ => .ite (builds_pure (by simp)) (builds_pure ?_)
  exact allRegular_cons.2 ⟨regular_node rfl allRegular_nil, allRegular_nil⟩

theorem builds_stringLiteral (h : Reads self) (a : Ahead) (q : Quote) (length : Nat) :
    Builds (stringLiteral self a q length) Regular := by
  refine .next fun opening => .next fun _ => .next fun begun => ?_
  refine builds_iterate (I := fun r => AllRegular r.1) (by simp) fun r hr => .next fun s => ?_
  split
  next => exact builds_throw
  next => exact .next fun _ => builds_pure hr
  next =>
    refine (builds_contentFrom _).bind fun content hcontent =>
      (h (.interpolation .interpolation) rfl).bind ?_
    exact fun hole hhole => .next fun _ => builds_pure (by simp [hhole, hcontent, hr])
  next =>
    refine (builds_contentFrom _).bind fun content hcontent => .next fun closing =>
      .next fun _ => ?_
    exact (builds_nodeFrom rfl (by simp [hcontent, hr])).finish

theorem builds_strings (h : Reads self) (a : Ahead) (q : Quote) (length : Nat) (follow : Follow) :
    Builds (strings self a q length follow) Regular := by
  refine (builds_stringLiteral h a q length).bind fun first hfirst => ?_
  refine builds_iterate (I := AllRegular) (by simp [hfirst]) fun acc hacc => .next fun b => ?_
  split
  next => exact (builds_stringLiteral h _ _ _).collect hacc
  next =>
    split
    next => exact builds_pure (by simpa using hacc)
    next => exact (builds_nodeFrom rfl (by simp [hacc])).finish

/-! ### Comprehensions -/

theorem builds_target (h : Reads self) (lead : Wanted) (follow : Follow) :
    Builds (target self lead follow) Regular := by
  refine .next fun a => (h _ rfl).bind fun e he => ?_
  split
  next t ht => exact builds_pure (regular_of_toTarget he.1 ht)
  next => exact builds_failAt

theorem builds_loopTarget (h : Reads self) : Builds (loopTarget self) Regular := by
  refine .next fun a => (builds_target h _ _).bind fun first hfirst => ?_
  refine builds_iterate (I := AllRegular) (by simp [hfirst]) fun acc hacc => .next fun comma => ?_
  have hlist : ∀ {start : Point}, Builds (nodeFrom .patternList start acc.reverse) Regular :=
    builds_nodeFrom rfl (by simp [hacc])
  split
  next =>
    split
    next => exact builds_pure (by simpa using hacc)
    next => exact hlist.finish
  next =>
    refine .next fun b => .ite ?_ ?_
    · exact (builds_target h _ _).collect hacc
    · exact hlist.finish

theorem builds_iterables (h : Reads self) : Builds (iterables self) AllRegular := by
  refine (h _ rfl).bind fun first hfirst => ?_
  refine builds_iterate (I := AllRegular) (by simp [hfirst]) fun acc hacc => .next fun comma => ?_
  cases comma with
  | none => exact builds_collected hacc
  | some _ =>
    refine .next fun a => .ite ?_ ?_
    · exact (h _ rfl).collect hacc
    · exact builds_collected hacc

theorem builds_forInClause (h : Reads self) : Builds (forInClause self) Regular := by
  refine .next fun a => .next fun _ => .next fun _ =>
    (builds_loopTarget h).bind fun left hleft => ?_
  refine .next fun _ => (builds_iterables h).bind fun right hright => ?_
  exact builds_nodeFrom rfl (by simp [hleft, hright])

theorem builds_clauses (h : Reads self) : Builds (clauses self) AllRegular := by
  refine (builds_forInClause h).bind fun first hfirst => ?_
  refine builds_iterate (I := AllRegular) (by simp [hfirst]) fun acc hacc => .next fun a =>
    .ite ?_ (.ite ?_ ?_)
  · exact (builds_forInClause h).collect hacc
  · refine .next fun word => (h _ rfl).bind fun e he => ?_
    exact (builds_nodeFrom rfl (by simp [he])).bind fun t ht => builds_pure (by simp [ht, hacc])
  · exact builds_collected hacc

/-! ### Brackets -/

theorem builds_element (h : Reads self) (lead : Wanted) : Builds (element self lead) Regular := by
  refine .next fun a => .ite ?_ (.ite (builds_yieldExpression h lead _) (h _ rfl))
  exact .next fun star => (h _ rfl).bind fun e he => builds_nodeFrom rfl (by simp [he])

theorem builds_moreElements (h : Reads self) (closer : String) {first : ParseTree}
    (hfirst : first.Regular) :
    Builds (moreElements self closer first) AllRegular :=
  builds_separated (builds_element h _) (by simp [hfirst])

theorem builds_bodyOrElement (h : Reads self) (lead : Wanted) :
    Builds (bodyOrElement self lead) fun r => r.1.Regular ∧ ∀ cs, r.2 = some cs →
      AllRegular cs := by
  refine .next fun before => .next fun a => (builds_element h lead).bind fun e he =>
    .next fun b => .ite ?_ ?_
  · refine .ite (.next fun _ => (h _ rfl).bind fun e' he' => ?_) ?_
    · exact (builds_clauses h).bind fun cs hcs => builds_pure (by simp [he', hcs])
    · exact (builds_clauses h).bind fun cs hcs => builds_pure (by simp [he, hcs])
  · exact builds_pure (by simp [he])

/-- A bracket holds a comprehension, or the rest is read after the first element. -/
theorem builds_comprehensionOr (h : Reads self) {lead : Wanted} {close : Parser Token} {kind : Kind}
    {start : Point} {rest : ParseTree → Parser ParseTree} (hk : plainKind kind = true)
    (hrest : ∀ e : ParseTree, e.Regular → Builds (rest e) Regular) :
    Builds (do
      match ← bodyOrElement self lead with
      | (e, some cs) =>
        let _ ← close
        nodeFrom kind start (e.withField .body :: cs)
      | (e, none) => rest e) Regular := by
  refine (builds_bodyOrElement h _).bind fun r hr => ?_
  obtain ⟨e, cs⟩ := r
  obtain ⟨he, hcs⟩ := hr
  cases cs with
  | some cs => exact .next fun _ => builds_nodeFrom hk (by simp [he, hcs cs rfl])
  | none => exact hrest e he

theorem builds_parenthesized (h : Reads self) (a : Ahead) :
    Builds (parenthesized self a) Regular := by
  refine .next fun bracket => .next fun closing => ?_
  cases closing with
  | some _ => exact builds_nodeFrom rfl (by simp)
  | none =>
    refine builds_comprehensionOr h rfl fun e he => .next fun closing => ?_
    cases closing with
    | some _ => exact builds_nodeFrom rfl (by simp [he])
    | none =>
      refine .next fun b => .ite ?_ (.next fun _ => builds_failAt)
      exact (builds_moreElements h _ he).bind fun es hes => builds_nodeFrom rfl hes

theorem builds_listDisplay (h : Reads self) (a : Ahead) : Builds (listDisplay self a) Regular := by
  refine .next fun bracket => .next fun closing => ?_
  cases closing with
  | some _ => exact builds_nodeFrom rfl (by simp)
  | none =>
    exact builds_comprehensionOr h rfl fun e he =>
      (builds_moreElements h _ he).bind fun es hes => builds_nodeFrom rfl hes

theorem builds_pairAfter (h : Reads self) {key : ParseTree} (hkey : key.Regular) :
    Builds (pairAfter self key) Regular :=
  .next fun _ => (h _ rfl).bind fun value hvalue => builds_nodeFrom rfl (by simp [hkey, hvalue])

theorem builds_entry (h : Reads self) (lead : Wanted) : Builds (entry self lead) Regular := by
  refine .next fun a => .ite ?_ ?_
  · exact .next fun stars => (h _ rfl).bind fun e he => builds_nodeFrom rfl (by simp [he])
  · exact (h _ rfl).bind fun key hkey => builds_pairAfter h hkey

theorem builds_moreEntries (h : Reads self) {first : List ParseTree} (hfirst : AllRegular first) :
    Builds (moreEntries self first) AllRegular :=
  builds_separated (builds_entry h _) hfirst

theorem builds_braced (h : Reads self) (a : Ahead) : Builds (braced self a) Regular := by
  have hmore : ∀ {start : Point} {first : ParseTree}, first.Regular →
      Builds (do nodeFrom .dictionary start (← moreEntries self [first])) Regular := fun hfirst =>
    (builds_moreEntries h (by simp [hfirst])).bind fun es hes => builds_nodeFrom rfl hes
  refine .next fun brace => .next fun b => .ite ?_ (.ite ?_ (.ite ?_ ?_))
  · exact .next fun _ => builds_nodeFrom rfl (by simp)
  · exact .next fun _ => .next fun _ => builds_nodeFrom rfl (by simp)
  · exact (builds_entry h _).bind fun first hfirst => hmore hfirst
  · refine builds_comprehensionOr h rfl fun e he => .next fun c => .ite ?_ ?_
    · refine (builds_pairAfter h he).bind fun first hfirst => .next fun _ => .ite ?_ (hmore hfirst)
      exact (builds_clauses h).bind fun cs hcs => .next fun _ =>
        builds_nodeFrom rfl (by simp [hfirst, hcs])
    · exact (builds_moreElements h _ he).bind fun es hes => builds_nodeFrom rfl hes

/-! ### Calls and subscripts -/

theorem builds_argument (h : Reads self) (lead : Wanted) : Builds (argument self lead) Regular := by
  refine .next fun a => .ite ?_ (.ite ?_ (.next fun named => .ite ?_ (h _ rfl)))
  · exact .next fun star => (h _ rfl).bind fun e he => builds_nodeFrom rfl (by simp [he])
  · exact .next fun stars => (h _ rfl).bind fun e he => builds_nodeFrom rfl (by simp [he])
  · exact .next fun name => .next fun _ => (h _ rfl).bind fun e he =>
      builds_nodeFrom rfl (by simp [he])

theorem builds_moreArguments (h : Reads self) {first : List ParseTree} (hfirst : AllRegular first) :
    Builds (moreArguments self first) AllRegular :=
  builds_separated (builds_argument h _) hfirst

theorem builds_arguments (h : Reads self) (a : Ahead) : Builds (arguments self a) Arguments := by
  have hlist : ∀ {start : Point} {cs : List ParseTree}, AllRegular cs →
      Builds (nodeFrom .argumentList start cs) Arguments := fun hcs =>
    .next fun _ => builds_pure (arguments_node rfl hcs)
  refine .next fun bracket => .next fun b => .ite ?_ (.ite ?_ ?_)
  · exact .next fun _ => hlist (by simp)
  · exact .next fun _ => .next fun _ => hlist (by simp)
  · refine .next fun before => (builds_argument h _).bind fun first hfirst =>
      .next fun c => .ite ?_ ?_
    · refine .next fun _ => (h _ rfl).bind fun body hbody =>
        (builds_clauses h).bind fun cs hcs => ?_
      refine .next fun _ => .next fun _ => builds_pure ?_
      exact (regular_node rfl (by simp [hbody, hcs])).arguments rfl
    · exact (builds_moreArguments h (by simp [hfirst])).bind fun cs hcs => hlist hcs

theorem builds_sliceBound (h : Reads self) : Builds (sliceBound self) AllRegular := by
  refine .next fun a => .ite ?_ (builds_pure (by simp))
  exact (h _ rfl).bind fun e he => builds_pure (by simp [he])

theorem builds_subscriptItem (h : Reads self) (lead : Wanted) :
    Builds (subscriptItem self lead) Regular := by
  refine .next fun a => ?_
  extract_lets rest
  have hrest : ∀ lower, AllRegular lower → Builds (rest lower) Regular := by
    intro lower hlower
    refine .next fun b => .ite ?_ ?_
    · refine .next fun _ => (builds_sliceBound h).bind fun upper hupper => .next fun c => .ite ?_ ?_
      · refine .next fun _ => (builds_sliceBound h).bind fun step hstep => ?_
        exact builds_nodeFrom rfl (by simp [hlower, hupper, hstep])
      · exact builds_nodeFrom rfl (by simp [hlower, hupper])
    · split
      next => exact builds_pure (by simpa using hlower)
      next => exact builds_failAt
  refine .ite (builds_pure_bind (hrest _ (by simp))) ?_
  exact (h _ rfl).bind fun e he => builds_pure_bind (hrest _ (by simp [he]))

theorem builds_subscriptItems (h : Reads self) (a : Ahead) :
    Builds (subscriptItems self a) AllRegular := by
  refine .next fun _ => (builds_subscriptItem h _).bind fun first hfirst => ?_
  exact builds_separated (builds_subscriptItem h _) (by simp [hfirst])

theorem builds_trailer? (h : Reads self) (follow : Follow) {e : ParseTree} (he : e.Regular) :
    Builds (trailer? self follow e) fun r => ∀ t, r = some t → t.Regular := by
  have hsome : ∀ {p : Parser ParseTree}, Builds p Regular →
      Builds (do return some (← p)) fun r => ∀ t, r = some t → t.Regular := fun hp =>
    hp.bind fun t ht => builds_pure (by simp [ht])
  refine .next fun a => .ite ?_ (.ite ?_ (.ite ?_ (builds_pure (by simp))))
  · exact .next fun _ => .next fun _ => .next fun name => hsome (builds_nodeFrom rfl (by simp [he]))
  · refine (builds_arguments h a).bind fun args hargs => hsome ?_
    exact .next fun _ => builds_pure (regular_call rfl he hargs)
  · exact (builds_subscriptItems h a).bind fun subs hsubs =>
      hsome (builds_nodeFrom rfl (by simp [he, hsubs]))

theorem builds_trailers (h : Reads self) (follow : Follow) {e : ParseTree} (he : e.Regular) :
    Builds (trailers self follow e) Regular := by
  refine builds_iterate he fun e he => (builds_trailer? h follow he).bind fun r hr => ?_
  cases r with
  | some t => exact builds_pure (hr t rfl)
  | none => exact builds_pure he

/-! ### Primary expressions -/

theorem builds_atom (h : Reads self) (lead : Wanted) (follow : Follow) :
    Builds (atom self lead follow) Regular := by
  refine .next fun a => ?_
  split
  next => exact builds_strings h _ _ _ follow
  next =>
    split
    next => exact .next fun _ => builds_pure (by simp)
    next => exact .next fun _ => builds_pure (by simp)
    next => exact .next fun _ => builds_pure (by simp)
    next => exact .next fun _ => builds_pure (by simp)
    next =>
      split
      next isFloat _ _ => exact .next fun _ => builds_pure (by cases isFloat <;> simp)
      next =>
        refine .ite (.next fun _ => builds_pure (by simp)) (.ite (builds_parenthesized h a) ?_)
        exact .ite (builds_listDisplay h a) (.ite (builds_braced h a) builds_failAt)
  next => exact builds_failAt

theorem builds_splatOperand (h : Reads self) (follow : Follow) {first : ParseTree}
    (hfirst : first.Regular) :
    Builds (splatOperand self follow first) Regular := by
  refine .next fun begun => ?_
  refine builds_iterate (I := fun r => r.1.Regular ∧ ∀ t s, r.2 = some (t, s) → t.Regular) ?_ ?_
  · refine ⟨hfirst, fun t s hbest => ?_⟩
    split at hbest
    next =>
      cases hbest
      exact hfirst
    next => cases hbest
  · intro r hr
    refine (builds_trailer? h follow hr.1).bind fun e he => ?_
    split
    next e =>
      refine .next fun now => builds_pure ⟨he e rfl, fun t s hbest => ?_⟩
      split at hbest
      next =>
        cases hbest
        exact he e rfl
      next => exact hr.2 t s hbest
    next =>
      split
      next t s hbest => exact .next fun _ => builds_pure (hr.2 t s hbest)
      next => exact .next fun _ => builds_failAt

theorem builds_splat (h : Reads self) (a : Ahead) (follow : Follow) :
    Builds (splat self a follow) Regular := by
  refine .next fun star => (builds_atom h _ follow).bind fun first hfirst => ?_
  exact (builds_splatOperand h follow hfirst).bind fun t ht => builds_nodeFrom rfl (by simp [ht])

theorem builds_binaryTail (h : Reads self) (floor : Nat) (follow : Follow) {e : ParseTree}
    (he : e.Regular) :
    Builds (binaryTail self floor follow e) Regular := by
  refine builds_iterate he fun e he => .next fun a => ?_
  split
  next => exact builds_pure he
  next =>
    refine .ite (.next fun _ => (h _ rfl).bind fun right hright => ?_) (builds_pure he)
    exact (builds_nodeFrom rfl (by simp [he, hright])).again

theorem builds_primary (h : Reads self) (floor : Nat) (lead : Wanted) (follow : Follow) :
    Builds (primary self floor lead follow) Regular := by
  refine .next fun a => ?_
  extract_lets rest
  have hrest : ∀ first : ParseTree, first.Regular →
      Builds (rest first) Regular := fun first hfirst =>
    (builds_trailers h follow hfirst).bind fun e he => builds_binaryTail h floor follow he
  refine .ite ?_ (.ite ?_ (.ite ?_ ?_))
  · exact .next fun sign => (h _ rfl).bind fun e he =>
      (builds_nodeFrom rfl (by simp [he])).bind hrest
  · exact (builds_splat h a follow).bind hrest
  · refine .next fun word => .next fun awaits => .ite ?_ (builds_pure_bind (hrest _ (by simp)))
    exact (h _ rfl).bind fun e he => (builds_nodeFrom rfl (by simp [he])).bind hrest
  · exact (builds_atom h lead follow).bind hrest

/-! ### Expressions -/

theorem builds_comparisons (h : Reads self) (lead : Wanted) (follow : Follow) :
    Builds (comparisons self lead follow) Regular := by
  refine (h _ rfl).bind fun first hfirst => ?_
  refine builds_iterate (I := AllRegular) (by simp [hfirst]) fun acc hacc =>
    .next fun compares => .ite ?_ ?_
  · exact (h _ rfl).collect hacc
  · split
    next => exact builds_pure (by simpa using hacc)
    next => exact (builds_nodeFrom rfl (by simp [hacc])).finish

theorem builds_expressionTail (h : Reads self) (floor : Nat) (follow : Follow) {e : ParseTree}
    (he : e.Regular) :
    Builds (expressionTail self floor follow e) Regular := by
  refine builds_iterate he fun e he => .next fun a =>
    .ite ?_ (.ite ?_ (.ite ?_ (.ite ?_ (builds_pure he))))
  · refine .next fun _ => (h _ rfl).bind fun right hright => ?_
    exact (builds_nodeFrom rfl (by simp [he, hright])).again
  · refine .next fun _ => (h _ rfl).bind fun right hright => ?_
    exact (builds_nodeFrom rfl (by simp [he, hright])).again
  · refine .next fun _ => (h _ rfl).bind fun condition hcondition => .next fun _ =>
      (h _ rfl).bind fun other hother => ?_
    exact (builds_nodeFrom rfl (by simp [he, hcondition, hother])).again
  · refine .next fun _ => (h _ rfl).bind fun name hname => ?_
    have hone : AllRegular [name] := by simp [hname]
    have htarget := regular_node
      (l := { kind := .asPatternTarget, field := some .aliasName, extent := name.extent }) rfl hone
    exact (builds_nodeFrom rfl (by simp [he, htarget])).again

/-! ### Annotations and parameters -/

theorem regular_asType {t : ParseTree} (h : t.Regular) : (asType t).Regular :=
  regular_node rfl (by simp [h])

theorem builds_typeParameters (h : Reads self) (a : Ahead) :
    Builds (typeParameters self a) Regular := by
  refine .next fun bracket => (h _ rfl).bind fun first hfirst => ?_
  refine Builds.bind (builds_separated (h _ rfl) (by simp [hfirst])) fun all hall => ?_
  exact builds_nodeFrom rfl hall

theorem builds_simpleType (h : Reads self) (lead : Wanted) (follow : Follow) :
    Builds (simpleType self lead follow) Regular := by
  have htype : ∀ {p : Parser ParseTree}, Builds p Regular →
      Builds (do return asType (← p)) Regular := fun hp =>
    hp.bind fun t ht => builds_pure (regular_asType ht)
  refine .next fun a => .next fun before => .ite (.next fun star => .next fun b => ?_) ?_
  · split
    next =>
      refine .next fun _ => .next fun name => .next fun c =>
        .ite (.next fun _ => htype (h _ rfl)) (htype ?_)
      exact builds_nodeFrom rfl (by simp)
    next => exact .next fun _ => builds_failAt
  · split
    next =>
      refine .ite (htype (h _ rfl))
        (.next fun name => .next fun b => .ite ?_ (.next fun _ => htype (h _ rfl)))
      refine (builds_typeParameters h b).bind fun params hparams => htype ?_
      exact builds_nodeFrom rfl (by simp [hparams])
    next => exact htype (h _ rfl)

theorem builds_typeHint (h : Reads self) (lead : Wanted) (follow : Follow) (constrained : Bool) :
    Builds (typeHint self lead follow constrained) Regular := by
  refine (builds_simpleType h lead follow).bind fun first hfirst => ?_
  refine builds_iterate hfirst fun t ht => .next fun a =>
    .ite ?_ (.ite ?_ (.ite ?_ (builds_pure ht)))
  · refine .next fun _ => .next fun _ => .next fun name => ?_
    exact (builds_nodeFrom rfl (by simp [ht])).bind fun u hu => builds_pure (regular_asType hu)
  · refine .next fun _ => (builds_simpleType h _ follow).bind fun right hright => ?_
    exact (builds_nodeFrom rfl (by simp [ht, hright])).bind fun u hu =>
      builds_pure (regular_asType hu)
  · refine .next fun _ => (h _ rfl).bind fun bound hbound => ?_
    exact (builds_nodeFrom rfl (by simp [ht, hbound])).bind fun u hu =>
      builds_pure (regular_asType hu)

theorem builds_starredName (h : Reads self) (star : Token) {kind : Kind}
    (hk : plainKind kind = true) (follow : Follow) :
    Builds (starredName self star kind follow) Regular := by
  refine .next fun a => (builds_atom h _ follow).bind fun first hfirst => ?_
  refine (builds_trailers h follow hfirst).bind fun e he => .ite ?_ builds_failAt
  exact builds_nodeFrom hk (by simp [he])

theorem builds_parameter (h : Reads self) (typed : Bool) (lead : Wanted) (follow : Follow) :
    Builds (parameter self typed lead follow) Regular := by
  refine .next fun a => .ite (.next fun _ => builds_pure (by simp)) ?_
  extract_lets rest
  have hrest : ∀ name : ParseTree, name.Regular → Builds (rest name) Regular := by
    intro name hname
    refine .next fun b =>
      .ite (builds_pure hname) (.ite ?_ (.ite ?_ (.ite builds_failAt (builds_pure hname))))
    · refine .next fun _ => (h _ rfl).bind fun type htype => .next fun sign => ?_
      split
      next =>
        refine (h _ rfl).bind fun value hvalue => ?_
        exact builds_nodeFrom rfl (by simp [hname, htype, hvalue])
      next => exact builds_failAt
      next => exact builds_nodeFrom rfl (by simp [hname, htype])
    · exact .next fun _ => (h _ rfl).bind fun value hvalue =>
        builds_nodeFrom rfl (by simp [hname, hvalue])
  refine .ite ?_ (.ite ?_ (.ite ?_ ?_))
  · refine .next fun star => .next fun b => .ite ?_ (builds_pure_bind (hrest _ (by simp)))
    exact (builds_starredName h star rfl follow).bind hrest
  · exact .next fun stars => (builds_starredName h stars rfl follow).bind hrest
  · exact (builds_target h lead follow).bind hrest
  · exact .next fun name => builds_pure_bind (hrest _ (by simp))

theorem builds_parameterList (h : Reads self) (typed : Bool) (lead : Wanted) (follow : Follow)
    (closer : String) :
    Builds (parameterList self typed lead follow closer) AllRegular := by
  refine (builds_parameter h typed lead follow).bind fun first hfirst => ?_
  refine builds_iterate (I := AllRegular) (by simp [hfirst]) fun acc hacc => .next fun comma => ?_
  cases comma with
  | none => exact builds_collected hacc
  | some _ =>
    refine .next fun a => .ite (builds_collected hacc) ?_
    exact (builds_parameter h typed _ follow).collect hacc

theorem builds_parameters (h : Reads self) : Builds (parameters self) Regular := by
  refine .next fun bracket => .next fun a => ?_
  extract_lets rest
  have hrest : ∀ all, AllRegular all → Builds (rest all) Regular := fun all hall =>
    .next fun _ => builds_nodeFrom rfl hall
  exact .ite (builds_pure_bind (hrest _ (by simp))) ((builds_parameterList h _ _ _ _).bind hrest)

theorem builds_lambda (h : Reads self) (lead : Wanted) (follow : Follow) :
    Builds (lambda self lead follow) Regular := by
  refine .next fun word => .next fun a => ?_
  extract_lets rest
  have hrest : ∀ params, AllRegular params → Builds (rest params) Regular := fun params hparams =>
    .next fun _ => (h _ rfl).bind fun body hbody => builds_nodeFrom rfl (by simp [hparams, hbody])
  refine .ite (builds_pure_bind (hrest _ (by simp))) ?_
  refine (builds_parameterList h _ _ _ _).bind fun all hall => ?_
  exact (builds_nodeFrom rfl hall).bind fun t ht => builds_pure_bind (hrest _ (by simp [ht]))

/-! ### Patterns -/

theorem builds_dottedName (lead : Wanted) (follow : Follow) :
    Builds (dottedName lead follow) Regular := by
  refine .next fun _ => .next fun first => ?_
  refine Builds.bind (P := AllRegular) ?_ fun names hnames => builds_nodeFrom rfl hnames
  refine builds_iterate (I := AllRegular) (by simp) fun acc hacc => .next fun dot => ?_
  cases dot with
  | none => exact builds_collected hacc
  | some _ => exact .next fun _ => .next fun name => builds_pure (by simp [hacc])

theorem builds_patternsUpTo (h : Reads self) (closer : String) :
    Builds (patternsUpTo self closer) AllRegular := by
  refine builds_iterate (I := AllRegular) (by simp) fun acc hacc => .next fun a => .ite ?_ ?_
  · exact .next fun _ => builds_collected hacc
  · refine (h _ rfl).bind fun p hp => .next fun comma => ?_
    cases comma with
    | some _ => exact builds_pure (by simp [hp, hacc])
    | none => exact .next fun _ => builds_pure (by simp [hp, hacc])

theorem builds_patternNumber (lead : Wanted) : Builds (patternNumber lead) Regular := by
  refine .next fun a => ?_
  split
  next isFloat _ _ => exact .next fun _ => builds_pure (by cases isFloat <;> simp)
  next => exact builds_failAt

theorem builds_numberPattern (lead : Wanted) (follow : Follow) :
    Builds (numberPattern lead follow) Regular := by
  refine .next fun a => .next fun minus => (builds_patternNumber _).bind fun first hfirst => ?_
  refine .next fun b => .ite (.next fun _ => ?_) (builds_pure hfirst)
  exact (builds_patternNumber _).bind fun second hsecond =>
    builds_nodeFrom rfl (by simp [hfirst, hsecond])

theorem builds_splatPattern (a : Ahead) : Builds (splatPattern a) Regular := by
  refine .next fun star => .next fun _ => .next fun name => builds_nodeFrom rfl ?_
  split <;> simp

theorem builds_mappingEntries (h : Reads self) {simple : Wanted → Follow → Parser (List ParseTree)}
    (hsimple : ∀ lead follow, Builds (simple lead follow) AllRegular) :
    Builds (mappingEntries self simple) AllRegular := by
  refine builds_iterate (I := AllRegular) (by simp) fun acc hacc => .next fun a => .ite ?_ ?_
  · exact .next fun _ => builds_collected hacc
  · extract_lets rest
    have hrest : ∀ read, AllRegular read → Builds (rest read) (Sum.elim AllRegular AllRegular) := by
      intro read hread
      refine .next fun comma => ?_
      cases comma with
      | some _ => exact builds_pure (by simp [hread, hacc])
      | none => exact .next fun _ => builds_pure (by simp [hread, hacc])
    refine .ite ((builds_splatPattern a).bind fun p hp => builds_pure_bind (hrest _ (by simp [hp])))
      ?_
    refine (hsimple _ _).bind fun key hkey => .next fun _ => (h _ rfl).bind fun value hvalue => ?_
    exact builds_pure_bind (hrest _ (by simp [hkey, hvalue]))

theorem builds_closedPattern (h : Reads self) {simple : Wanted → Follow → Parser (List ParseTree)}
    (hsimple : ∀ lead follow, Builds (simple lead follow) AllRegular) (lead : Wanted)
    (follow : Follow) :
    Builds (closedPattern self simple lead follow) AllRegular := by
  refine .next fun a => ?_
  split
  next => exact (builds_strings h _ _ _ follow).single
  next =>
    split
    next => exact .next fun _ => builds_pure (by simp)
    next => exact .next fun _ => builds_pure (by simp)
    next => exact .next fun _ => builds_pure (by simp)
    next => exact .next fun _ => builds_pure (by simp)
    next =>
      refine (builds_dottedName lead follow).bind fun name hname => .next fun bracket => ?_
      cases bracket with
      | none => exact builds_pure (by simp [hname])
      | some _ =>
        refine (builds_patternsUpTo h _).bind fun parts hparts => Builds.single ?_
        exact builds_nodeFrom rfl (by simp [hname, hparts])
    next =>
      refine .ite ((builds_splatPattern a).single)
        (.ite ?_ (.ite ?_ (.ite ?_ ((builds_numberPattern lead follow).single))))
      · exact .next fun _ => (builds_patternsUpTo h _).bind fun parts hparts =>
          (builds_nodeFrom rfl hparts).single
      · exact .next fun _ => (builds_patternsUpTo h _).bind fun parts hparts =>
          (builds_nodeFrom rfl hparts).single
      · exact .next fun _ => (builds_mappingEntries h hsimple).bind fun parts hparts =>
          (builds_nodeFrom rfl hparts).single

theorem builds_simplePattern (h : Reads self) (depth : Nat) :
    ∀ lead follow, Builds (simplePattern self depth lead follow) AllRegular := by
  induction depth with
  | zero => exact fun lead follow => .next fun _ => builds_failAt
  | succ depth ih =>
    intro lead follow
    refine .next fun a => (builds_closedPattern h ih lead follow).bind fun first hfirst => ?_
    refine builds_iterate (I := fun r => AllRegular r.1) hfirst fun r hr => .next fun bar => ?_
    split
    next =>
      exact (builds_closedPattern h ih _ follow).bind fun next hnext =>
        builds_pure (by simp [hr, hnext])
    next =>
      refine .ite ?_ (builds_pure hr)
      exact (builds_nodeFrom rfl hr).bind fun t ht => builds_pure (by simp [ht])

theorem builds_casePattern (h : Reads self) (lead : Wanted) :
    Builds (casePattern self lead) Regular := by
  refine .next fun a => .next fun named => ?_
  extract_lets rest
  have hrest : ∀ parts, AllRegular parts → Builds (rest parts) Regular := by
    intro parts hparts
    refine (builds_nodeFrom rfl hparts).bind fun first hfirst => ?_
    refine builds_iterate hfirst fun p hp => .next fun word => ?_
    cases word with
    | none => exact builds_pure hp
    | some _ =>
      refine .next fun _ => .next fun name =>
        (builds_nodeFrom rfl (by simp [hp])).bind fun t ht => ?_
      exact (builds_nodeFrom rfl (by simp [ht])).again
  refine .ite ?_ (.next fun s => (builds_simplePattern h _ _ _).bind hrest)
  refine .next fun name => .next fun _ => .next fun s =>
    (builds_simplePattern h _ _ _).bind fun value hvalue => ?_
  exact (builds_nodeFrom rfl (by simp [hvalue])).bind fun t ht =>
    builds_pure_bind (hrest _ (by simp [ht]))

/-! ### All goals -/

theorem builds_expression (h : Reads self) (floor : Nat) (lead : Wanted) (follow : Follow) :
    Builds (expression self floor lead follow) Regular := by
  refine .next fun a => ?_
  extract_lets rest
  have hrest : ∀ first : ParseTree, first.Regular →
      Builds (rest first) Regular := fun first hfirst =>
    builds_expressionTail h floor follow hfirst
  refine .next fun named => .ite ?_ (.ite ?_ (.ite ?_ ?_))
  · exact .next fun word => (h _ rfl).bind fun e he =>
      (builds_nodeFrom rfl (by simp [he])).bind hrest
  · exact (builds_lambda h lead follow).bind hrest
  · refine .next fun name => .next fun _ => .next fun _ => (h _ rfl).bind fun value hvalue => ?_
    exact (builds_nodeFrom rfl (by simp [hvalue])).bind hrest
  · exact (builds_comparisons h lead follow).bind hrest

/-- One level of the grammar keeps that goals are read as regular trees. -/
theorem reads_step (h : Reads self) : Reads (Goal.step self) := by
  intro g hg
  cases g with
  | expression floor lead follow => exact builds_expression h floor lead follow
  | primary floor lead follow => exact builds_primary h floor lead follow
  | interpolation kind => exact builds_interpolation h hg
  | typeHint lead follow constrained => exact builds_typeHint h lead follow constrained
  | pattern lead => exact builds_casePattern h lead

end

theorem reads_parseWith (depth : Nat) : Reads (Goal.parseWith depth) := by
  induction depth with
  | zero =>
    intro g _ s t s' ht
    cases ht
  | succ depth ih => exact reads_step ih

/-- Goals are read as regular trees. -/
theorem reads_parse : Reads Goal.parse := fun g hg => .next fun _ => reads_parseWith _ g hg

end Concrete

end PythonAudit
