import PythonAudit.Concrete.Program
import PythonAudit.Proofs.ParsedExpression

/-!
# Texts are read as grammatical trees

* Statements are read as regular trees, with one lemma `builds_…` for each kind of statement, and
  `builds_statements` puts them together;
* `Grammatical.placeAmong` says that a continued line end can be put anywhere between statements and
  their parts;
* `grammatical_ofText` says that the tree of every text is grammatical.
-/

namespace PythonAudit

namespace Concrete

open Syntax Concrete.Parser ParseTree

/-! ### Assignments -/

/-- The trees of a side are regular. -/
def Side.Regular : Side → Prop
  | .bare es _ _ => AllRegular es
  | .whole t => t.Regular

theorem Side.Regular.value {s : Side} (h : s.Regular) : s.value.Regular := by
  unfold Side.value
  split
  next => exact (allRegular_cons.1 h).1
  next => exact regular_node rfl h
  next => exact h

theorem Side.Regular.parts {s : Side} (h : s.Regular) : AllRegular s.parts := by
  cases s with
  | bare es comma extent => exact h
  | whole t => exact allRegular_cons.2 ⟨h, allRegular_nil⟩

theorem regular_of_targetOf {es : List ParseTree} {comma : Bool} {extent : Extent} {t : ParseTree}
    (h : AllRegular es) (ht : targetOf es comma extent = some t) : t.Regular := by
  unfold targetOf at ht
  split at ht
  next => cases ht
  next u hu =>
    have hone := allRegular_of_toTargets h.grammatical hu
    split at ht
    next => exact Option.some.inj ht ▸ regular_node rfl hone
    next => exact Option.some.inj ht ▸ (allRegular_cons.1 hone).1
  next us _ hus =>
    exact Option.some.inj ht ▸ regular_node rfl (allRegular_of_toTargets h.grammatical hus)

theorem builds_lineExpression (lead : Wanted) : Builds (lineExpression lead) Regular :=
  reads_parse _ rfl

theorem builds_side (depth : Nat) : ∀ lead, Builds (side depth lead) Side.Regular := by
  induction depth with
  | zero => exact fun lead => .next fun _ => builds_failAt
  | succ depth ih =>
    intro lead
    refine .next fun a => .ite ?_ ?_
    · exact (builds_yieldExpression reads_parse lead _).bind fun t ht => builds_pure ht
    · refine (builds_items reads_parse lead _).bind fun r hr => ?_
      obtain ⟨es, comma⟩ := r
      refine .next fun stop => .next fun b => .ite ?_ (.ite ?_ (builds_pure hr))
      · split
        next => exact builds_failAt
        next left hleft =>
          have hregular := regular_of_targetOf hr hleft
          refine .next fun _ => (ih _).bind fun s hs => ?_
          exact (builds_nodeFrom (by split <;> rfl) (by simp [hregular, hs.value])).bind fun t ht =>
            builds_pure ht
      · split
        next => exact builds_failAt
        next left hleft =>
          have hregular := regular_of_targetOf hr hleft
          refine .next fun _ => (reads_parse _ rfl).bind fun type htype => .next fun sign => ?_
          cases sign with
          | none =>
            exact (builds_nodeFrom rfl (by simp [hregular, htype])).bind fun t ht => builds_pure ht
          | some _ =>
            refine (ih _).bind fun s hs => ?_
            exact (builds_nodeFrom rfl (by simp [hregular, htype, hs.value])).bind fun t ht =>
              builds_pure ht

theorem builds_expressionStatement (lead : Wanted) : Builds (expressionStatement lead) Regular :=
  .next fun _ => .next fun _ => (builds_side _ lead).bind fun _ hs => builds_nodeFrom rfl hs.parts

/-! ### Imports -/

theorem builds_importedName (lead : Wanted) (follow : Follow) :
    Builds (importedName lead follow) Regular := by
  refine (builds_dottedName lead follow).bind fun name hname => .next fun word => ?_
  cases word with
  | none => exact builds_pure (by simp [hname])
  | some _ =>
    refine .next fun _ => .next fun other => ?_
    exact (builds_nodeFrom rfl (by simp [hname])).bind fun t ht => builds_pure (by simp [ht])

theorem builds_importedNames (lead : Wanted) (follow : Follow) :
    Builds (importedNames lead follow) AllRegular := by
  refine (builds_importedName lead follow).bind fun first hfirst => ?_
  refine builds_iterate (I := AllRegular) (by simp [hfirst]) fun acc hacc => .next fun comma => ?_
  cases comma with
  | none => exact builds_collected hacc
  | some _ =>
    refine .next fun a => .ite ?_ (builds_collected hacc)
    exact (builds_importedName _ follow).collect hacc

theorem builds_importedList : Builds importedList AllRegular := by
  refine .next fun bracket => ?_
  cases bracket with
  | some _ =>
    exact (builds_importedNames _ _).bind fun names hnames => .next fun _ => builds_pure hnames
  | none => exact builds_importedNames _ _

theorem builds_importSource : Builds importSource Regular := by
  refine .next fun dots => ?_
  split
  next => exact builds_dottedName _ _
  next d ds =>
    refine .next fun a => ?_
    extract_lets rest
    have hrest : ∀ names, AllRegular names → Builds (rest names) Regular := fun names hnames =>
      builds_nodeFrom rfl (allRegular_cons.2 ⟨regular_node rfl allRegular_nil, hnames⟩)
    refine .ite ?_ (builds_pure_bind (hrest _ (by simp)))
    exact (builds_dottedName _ _).bind fun name hname =>
      builds_pure_bind (hrest _ (by simp [hname]))

theorem builds_fromImport (lead : Wanted) : Builds (fromImport lead) Regular := by
  refine .next fun word => .next fun a => .ite (.next fun _ => .next fun _ => ?_) ?_
  · exact builds_importedList.bind fun names hnames => builds_nodeFrom rfl hnames
  · refine builds_importSource.bind fun source hsource => .next fun _ => .next fun b => ?_
    extract_lets rest
    have hrest : ∀ names, AllRegular names → Builds (rest names) Regular := fun names hnames =>
      builds_nodeFrom rfl (by simp [hsource, hnames])
    exact .ite (.next fun _ => builds_pure_bind (hrest _ (by simp)))
      (builds_importedList.bind hrest)

/-! ### Statements of older versions -/

theorem builds_printArguments {first : List ParseTree} (hfirst : AllRegular first) :
    Builds (printArguments first) AllRegular := by
  refine builds_iterate hfirst fun acc hacc => .next fun comma => ?_
  cases comma with
  | none => exact builds_collected hacc
  | some _ =>
    refine .next fun a => .ite ?_ (builds_collected hacc)
    exact (builds_lineExpression _).bind fun e he => builds_pure (by simp [he, hacc])

theorem builds_printStatement (lead : Wanted) : Builds (printStatement lead) Regular := by
  refine .next fun word => .next fun a => ?_
  extract_lets rest
  have hrest : ∀ first : ParseTree, first.Regular →
      Builds (rest first) Regular := fun first hfirst =>
    (builds_printArguments (by simp [hfirst])).bind fun all hall => builds_nodeFrom rfl hall
  refine .ite (.next fun arrow => ?_) ?_
  · exact (builds_lineExpression _).bind fun e he => (builds_nodeFrom rfl (by simp [he])).bind hrest
  · exact (builds_lineExpression _).bind fun e he => builds_pure_bind (hrest _ (by simp [he]))

theorem builds_strictItems (follow : Follow) : Builds (strictItems follow) AllRegular := by
  refine (reads_parse _ rfl).bind fun first hfirst => ?_
  refine builds_iterate (I := AllRegular) (by simp [hfirst]) fun acc hacc => .next fun comma => ?_
  cases comma with
  | none => exact builds_collected hacc
  | some _ => exact (reads_parse _ rfl).collect hacc

theorem builds_execStatement (lead : Wanted) : Builds (execStatement lead) Regular := by
  refine .next fun word => .next fun a => ?_
  extract_lets rest
  have hrest : ∀ code : ParseTree, code.Regular → Builds (rest code) Regular := by
    intro code hcode
    refine .next fun b => ?_
    extract_lets finish
    have hfinish : ∀ scope, AllRegular scope → Builds (finish scope) Regular := fun scope hscope =>
      builds_nodeFrom rfl (by simp [hcode, hscope])
    cases b with
    | some _ => exact (builds_strictItems _).bind hfinish
    | none => exact builds_pure_bind (hfinish _ (by simp))
  split
  next => exact (builds_stringLiteral reads_parse _ _ _).bind hrest
  next => exact .next fun name => builds_pure_bind (hrest _ (by simp))

theorem builds_typeAlias (lead : Wanted) : Builds (typeAlias lead) Regular := by
  refine .next fun word => (reads_parse _ rfl).bind fun left hleft => .next fun _ => ?_
  exact (reads_parse _ rfl).bind fun right hright => builds_nodeFrom rfl (by simp [hleft, hright])

/-! ### Simple statements -/

theorem builds_wordAndExpressions (a : Ahead) {kind : Kind} (hk : plainKind kind = true) :
    Builds (wordAndExpressions a kind) Regular := by
  refine .next fun word => .next fun b => .ite ?_ (builds_nodeFrom hk (by simp))
  exact (builds_expressions reads_parse _ _).bind fun e he => builds_nodeFrom hk (by simp [he])

theorem builds_raiseStatement (a : Ahead) : Builds (raiseStatement a) Regular := by
  refine .next fun word => .next fun b => ?_
  extract_lets rest
  have hrest : ∀ raised, AllRegular raised → Builds (rest raised) Regular := by
    intro raised hraised
    refine .next fun sign => ?_
    cases sign with
    | none => exact builds_nodeFrom rfl hraised
    | some _ =>
      exact (builds_lineExpression _).bind fun cause hcause =>
        builds_nodeFrom rfl (by simp [hraised, hcause])
  refine .ite ?_ (builds_pure_bind (hrest _ (by simp)))
  exact (builds_expressions reads_parse _ _).bind fun e he =>
    builds_pure_bind (hrest _ (by simp [he]))

theorem builds_nameStatement (a : Ahead) {kind : Kind} (hk : plainKind kind = true) :
    Builds (nameStatement a kind) Regular := by
  refine .next fun word => .next fun _ => .next fun first => ?_
  refine Builds.bind (P := AllRegular) ?_ fun names hnames => builds_nodeFrom hk hnames
  refine builds_iterate (I := AllRegular) (by simp) fun acc hacc => .next fun comma => ?_
  cases comma with
  | none => exact builds_collected hacc
  | some _ => exact .next fun _ => .next fun name => builds_pure (by simp [hacc])

theorem builds_wordStatement (a : Ahead) {kind : Kind} (hk : kind ≠ .argumentList) :
    Builds (wordStatement a kind) Regular :=
  .next fun _ => builds_pure (regular_leaf.2 hk)

theorem builds_simpleStatement (lead : Wanted) : Builds (simpleStatement lead) Regular := by
  have hends : ∀ {p : Parser ParseTree}, Builds p Regular → Builds (do
      let t ← p
      lineEnds
      return t) Regular := fun hp => hp.bind fun t ht => .next fun _ => builds_pure ht
  have hstatement := builds_expressionStatement lead
  refine .next fun a => ?_
  split
  next =>
    exact .next fun word => (builds_importedNames _ _).bind fun names hnames =>
      builds_nodeFrom rfl hnames
  next => exact builds_fromImport lead
  next =>
    refine .next fun before => .next fun _ => .next fun b => .next fun _ => ?_
    exact .ite (builds_printStatement lead) ((hends hstatement).orElse (builds_printStatement lead))
  next => exact .next fun word => (builds_strictItems _).bind fun es hes => builds_nodeFrom rfl hes
  next => exact builds_wordAndExpressions a rfl
  next =>
    refine .next fun word => (builds_expressions reads_parse _ _).bind fun e he => ?_
    exact builds_nodeFrom rfl (by simp [he])
  next => exact builds_raiseStatement a
  next => exact builds_wordStatement a (by decide)
  next => exact builds_wordStatement a (by decide)
  next => exact builds_wordStatement a (by decide)
  next => exact builds_nameStatement a rfl
  next => exact builds_nameStatement a rfl
  next => exact .next fun _ => .ite (builds_execStatement lead) hstatement
  next => exact (hends (builds_typeAlias lead)).orElse hstatement
  next => exact hstatement

theorem builds_simpleStatements (lead : Wanted) : Builds (simpleStatements lead) AllRegular := by
  refine (builds_simpleStatement lead).bind fun first hfirst => ?_
  refine builds_iterate (I := AllRegular) (by simp [hfirst]) fun acc hacc => .next fun a =>
    .ite ?_ (.ite ?_ builds_failAt)
  · exact .next fun _ => builds_collected hacc
  · refine .next fun _ => .next fun b => .ite ?_ ?_
    · exact .next fun _ => builds_collected hacc
    · exact (builds_simpleStatement _).collect hacc

/-! ### Blocks -/

/-- A parser that reads the statements of blocks as regular trees. -/
def ReadsBlocks (self : Bool → Parser (List ParseTree)) : Prop :=
  ∀ inBlock, Builds (self inBlock) AllRegular

theorem builds_headExpression : Builds headExpression Regular := reads_parse _ rfl

section

variable {self : Bool → Parser (List ParseTree)}

theorem builds_blockOf {statements : List ParseTree} (h : AllRegular statements) :
    Builds (blockOf statements) Regular :=
  .next fun _ => builds_pure (regular_node rfl h)

theorem builds_suite (h : ReadsBlocks self) : Builds (suite self) Regular := by
  refine .next fun a => ?_
  split
  next =>
    refine .next fun _ => Builds.bind (P := AllRegular) ?_ fun ts hts => builds_blockOf hts
    refine builds_iterate (I := AllRegular) (by simp) fun acc hacc => .next fun b => .ite ?_ ?_
    · exact .next fun _ => builds_pure hacc
    · exact (h true).bind fun ts hts => builds_pure (by simp [hacc, hts])
  next => exact .next fun _ => builds_blockOf (by simp)
  next => exact (builds_simpleStatements _).bind fun ts hts => builds_blockOf hts

theorem builds_colonSuite (h : ReadsBlocks self) : Builds (colonSuite self) Regular :=
  .next fun _ => builds_suite h

/-- A word and the block after it, where the word is there. -/
theorem builds_clause? (h : ReadsBlocks self) {word : Parser (Option Token)} {kind : Kind}
    (hk : plainKind kind = true) (shape : ParseTree → ParseTree)
    (hshape : ∀ t : ParseTree, t.Regular → (shape t).Regular) :
    Builds (do
      match ← word with
      | none => return none
      | some word =>
        let body ← colonSuite self
        return some (← nodeFrom kind word.extent.start [shape body]))
      fun r => AllRegular r.toList := by
  refine .next fun word => ?_
  cases word with
  | none => exact builds_pure (by simp)
  | some w =>
    refine (builds_colonSuite h).bind fun body hbody => ?_
    exact (builds_nodeFrom hk (by simp [hshape body hbody])).bind fun t ht =>
      builds_pure (by simp [ht])

theorem builds_elseClause? (h : ReadsBlocks self) (lead : Wanted) :
    Builds (elseClause? self lead) fun r => AllRegular r.toList :=
  builds_clause? h rfl (·.withField .body) fun _ ht => regular_withField.2 ht

/-! ### Branches and loops -/

theorem builds_ifStatement (h : ReadsBlocks self) (a : Ahead) (inBlock : Bool) :
    Builds (ifStatement self a inBlock) Regular := by
  refine .next fun word => builds_headExpression.bind fun condition hcondition => ?_
  refine (builds_colonSuite h).bind fun body hbody => ?_
  refine Builds.bind (P := AllRegular) ?_ fun branches hbranches => ?_
  · refine builds_iterate (I := AllRegular) (by simp) fun acc hacc => .next fun w => ?_
    cases w with
    | some w =>
      refine builds_headExpression.bind fun c hc => (builds_colonSuite h).bind fun b hb => ?_
      exact (builds_nodeFrom rfl (by simp [hc, hb])).bind fun t ht =>
        builds_pure (by simp [ht, hacc])
    | none =>
      refine (builds_elseClause? h _).bind fun e he => ?_
      cases e with
      | some e => exact builds_pure (by simpa [hacc] using he)
      | none => exact builds_collected hacc
  · exact builds_nodeFrom rfl (by simp [hcondition, hbody, hbranches])

theorem builds_whileStatement (h : ReadsBlocks self) (a : Ahead) (inBlock : Bool) :
    Builds (whileStatement self a inBlock) Regular := by
  refine .next fun word => builds_headExpression.bind fun condition hcondition => ?_
  refine (builds_colonSuite h).bind fun body hbody =>
    (builds_elseClause? h _).bind fun other hother => ?_
  exact builds_nodeFrom rfl (by simp [hcondition, hbody, hother])

theorem builds_forStatement (h : ReadsBlocks self) (start : Point) (inBlock : Bool) :
    Builds (forStatement self start inBlock) Regular := by
  refine .next fun _ => (builds_loopTarget reads_parse).bind fun left hleft => .next fun _ => ?_
  refine (builds_expressions reads_parse _ _).bind fun right hright =>
    (builds_colonSuite h).bind fun body hbody => ?_
  refine (builds_elseClause? h _).bind fun other hother => ?_
  exact builds_nodeFrom rfl (by simp [hleft, hright, hbody, hother])

/-! ### Handlers -/

theorem builds_exceptClause (h : ReadsBlocks self) (a : Ahead) :
    Builds (exceptClause self a) Regular := by
  refine .next fun word => .next fun b => ?_
  extract_lets rest
  have hrest : ∀ value, AllRegular value → Builds (rest value) Regular := fun value hvalue =>
    (builds_colonSuite h).bind fun body hbody => builds_nodeFrom rfl (by simp [hvalue, hbody])
  refine .ite (builds_pure_bind (hrest _ (by simp)))
    (builds_headExpression.bind fun v hv => .next fun comma => ?_)
  cases comma with
  | none => exact builds_pure_bind (hrest _ (by simp [hv]))
  | some _ =>
    exact builds_headExpression.bind fun n hn => builds_pure_bind (hrest _ (by simp [hv, hn]))

theorem builds_exceptGroupClause (h : ReadsBlocks self) (a : Ahead) :
    Builds (exceptGroupClause self a) Regular := by
  refine .next fun word => builds_headExpression.bind fun value hvalue => ?_
  exact (builds_colonSuite h).bind fun body hbody => builds_nodeFrom rfl (by simp [hvalue, hbody])

theorem builds_handlers (h : ReadsBlocks self) (inBlock : Bool) :
    Builds (handlers self inBlock) AllRegular := by
  refine .next fun a => builds_iterate (I := AllRegular) (by simp) fun acc hacc => ?_
  refine .next fun b => .ite ?_ (builds_collected hacc)
  extract_lets rest
  have hrest : ∀ clause : ParseTree, clause.Regular →
      Builds (rest clause) (Sum.elim AllRegular AllRegular) :=
    fun clause hclause => builds_pure (by simp [hclause, hacc])
  exact .ite ((builds_exceptGroupClause h b).bind hrest) ((builds_exceptClause h b).bind hrest)

theorem builds_finallyClause? (h : ReadsBlocks self) (lead : Wanted) :
    Builds (finallyClause? self lead) fun r => AllRegular r.toList :=
  builds_clause? h rfl id fun _ ht => ht

theorem builds_tryStatement (h : ReadsBlocks self) (a : Ahead) (inBlock : Bool) :
    Builds (tryStatement self a inBlock) Regular := by
  refine .next fun word => (builds_colonSuite h).bind fun body hbody => ?_
  refine (builds_handlers h inBlock).bind fun caught hcaught => ?_
  extract_lets _ lead rest
  have hrest : ∀ more, AllRegular more → Builds (rest more) Regular := fun more hmore =>
    builds_nodeFrom rfl (by simp [hbody, hmore])
  refine .ite ((builds_finallyClause? h _).bind fun final hfinal => ?_) ?_
  · cases final with
    | some f => exact builds_pure_bind (hrest _ hfinal)
    | none => exact .next fun _ => builds_failAt.bind hrest
  · refine (builds_elseClause? h lead).bind fun other hother =>
      (builds_finallyClause? h lead).bind fun final hfinal => ?_
    exact builds_pure_bind (hrest _ (by simp [hcaught, hother, hfinal]))

/-! ### Managed contexts -/

theorem regular_asItem {e : ParseTree} (h : e.Regular) : (asItem e).Regular :=
  regular_node rfl (by simp [h])

theorem builds_parenthesizedItem (lead : Wanted) : Builds (parenthesizedItem lead) Regular := by
  refine .next fun a => .ite builds_failAt ?_
  exact (reads_parse _ rfl).bind fun e he => builds_pure (regular_asItem he)

theorem builds_parenthesizedItems : Builds parenthesizedItems Regular := by
  refine .next fun bracket => (builds_parenthesizedItem _).bind fun first hfirst => ?_
  refine (builds_separated (builds_parenthesizedItem _) (by simp [hfirst])).bind fun all hall => ?_
  exact .next fun a => .ite (builds_nodeFrom rfl hall) builds_failAt

theorem builds_plainItems : Builds plainItems Regular := by
  refine (builds_items reads_parse _ _).bind fun r hr => .next fun _ =>
    builds_nodeFrom rfl fun t ht => ?_
  obtain ⟨e, he, rfl⟩ := List.mem_map.1 ht
  exact regular_asItem (hr e he)

theorem builds_withStatement (h : ReadsBlocks self) (start : Point) (inBlock : Bool) :
    Builds (withStatement self start inBlock) Regular := by
  refine .next fun _ =>
    (builds_parenthesizedItems.orElse builds_plainItems).bind fun clause hclause => ?_
  exact (builds_colonSuite h).bind fun body hbody => builds_nodeFrom rfl (by simp [hclause, hbody])

/-! ### Definitions -/

theorem builds_functionDefinition (h : ReadsBlocks self) (start : Point) (lead : Wanted) :
    Builds (functionDefinition self start lead) Regular := by
  refine .next fun _ => .next fun _ => .next fun name => .next fun a => ?_
  extract_lets rest
  have hrest : ∀ types, AllRegular types → Builds (rest types) Regular := by
    intro types htypes
    refine (builds_parameters reads_parse).bind fun params hparams => .next fun b => ?_
    extract_lets finish
    have hfinish : ∀ result, AllRegular result →
        Builds (finish result) Regular := fun result hresult =>
      (builds_colonSuite h).bind fun body hbody =>
        builds_nodeFrom rfl (by simp [htypes, hparams, hresult, hbody])
    refine .ite (.next fun _ => ?_) (builds_pure_bind (hfinish _ (by simp)))
    exact (reads_parse _ rfl).bind fun t ht => builds_pure_bind (hfinish _ (by simp [ht]))
  refine .ite ?_ (builds_pure_bind (hrest _ (by simp)))
  exact (builds_typeParameters reads_parse a).bind fun t ht =>
    builds_pure_bind (hrest _ (by simp [ht]))

/-- The list of base classes is the one list of arguments outside a call. -/
theorem builds_classDefinition (h : ReadsBlocks self) (lead : Wanted) :
    Builds (classDefinition self lead) Regular := by
  refine .next fun word => .next fun _ => .next fun name => .next fun a => ?_
  extract_lets rest
  have hrest : ∀ types, AllRegular types → Builds (rest types) Regular := by
    intro types htypes
    refine .next fun b => ?_
    extract_lets finish
    have hfinish : ∀ bases : List ParseTree, (∀ t ∈ bases, t.Grammatical) →
        Builds (finish bases) Regular := by
      intro bases hbases
      refine (builds_colonSuite h).bind fun body hbody => .next fun _ => builds_pure ?_
      refine regular_node_of_grammatical rfl fun t ht => ?_
      simp only [List.mem_cons, List.mem_append, List.not_mem_nil, or_false] at ht
      rcases ht with ((rfl | ht) | ht) | rfl
      · simp [grammatical_leaf, Token.leaf]
      · exact (htypes t ht).1
      · exact hbases t ht
      · simpa using hbody.1
    refine .ite ((builds_arguments reads_parse b).bind fun args hargs =>
      .ite ?_ (builds_failAt.bind hfinish)) ?_
    · exact builds_pure_bind (hfinish _ (by simp [hargs.1]))
    · exact builds_pure_bind (hfinish _ (by simp))
  refine .ite ?_ (builds_pure_bind (hrest _ (by simp)))
  exact (builds_typeParameters reads_parse a).bind fun t ht =>
    builds_pure_bind (hrest _ (by simp [ht]))

theorem builds_decoratedDefinition (h : ReadsBlocks self) (inBlock : Bool) :
    Builds (decoratedDefinition self inBlock) Regular := by
  refine .next fun a => builds_iterate (I := AllRegular) (by simp) fun acc hacc =>
    .next fun b => .ite ?_ ?_
  · refine .next fun sign => (builds_lineExpression _).bind fun e he => .next fun c =>
      .ite ?_ builds_failAt
    exact (builds_nodeFrom rfl (by simp [he])).bind fun t ht => .next fun _ =>
      builds_pure (by simp [ht, hacc])
  · extract_lets rest
    have hrest : ∀ definition : ParseTree, definition.Regular →
        Builds (rest definition) (Sum.elim AllRegular Regular) :=
      fun definition hdefinition =>
        (builds_nodeFrom rfl (by simp [hacc, hdefinition])).finish
    refine .ite ((builds_classDefinition h _).bind hrest) (.ite (.next fun _ => ?_) ?_)
    · exact (builds_functionDefinition h _ _).bind hrest
    · exact (builds_functionDefinition h _ _).bind hrest

/-! ### Pattern matching -/

theorem builds_casePatterns : Builds casePatterns AllRegular := by
  refine (reads_parse _ rfl).bind fun first hfirst => ?_
  refine builds_iterate (I := AllRegular) (by simp [hfirst]) fun acc hacc => .next fun comma => ?_
  cases comma with
  | none => exact builds_collected hacc
  | some _ =>
    refine .next fun a => .ite (builds_collected hacc) ?_
    exact (reads_parse _ rfl).collect hacc

theorem builds_caseClause (h : ReadsBlocks self) (a : Ahead) :
    Builds (caseClause self a) Regular := by
  refine .next fun word => builds_casePatterns.bind fun patterns hpatterns => .next fun w => ?_
  extract_lets rest
  have hrest : ∀ guard, AllRegular guard → Builds (rest guard) Regular := fun guard hguard =>
    (builds_colonSuite h).bind fun body hbody =>
      builds_nodeFrom rfl (by simp [hpatterns, hguard, hbody])
  cases w with
  | none => exact builds_pure_bind (hrest _ (by simp))
  | some w =>
    refine builds_headExpression.bind fun e he => ?_
    exact (builds_nodeFrom rfl (by simp [he])).bind fun t ht =>
      builds_pure_bind (hrest _ (by simp [ht]))

theorem builds_matchHead (lead : Wanted) : Builds (matchHead lead) fun r => AllRegular r.2.1 := by
  refine .next fun word => (builds_items reads_parse _ _).bind fun r hr => .next fun _ =>
    .next fun a => ?_
  exact .ite (builds_pure hr) builds_failAt

theorem builds_matchBody (h : ReadsBlocks self) (word : Token) {subjects : List ParseTree}
    (hsubjects : AllRegular subjects) (a : Ahead) :
    Builds (matchBody self word subjects a) Regular := by
  refine .next fun _ => ?_
  extract_lets start rest
  have hrest : ∀ cases, AllRegular cases → Builds (rest cases) Regular := fun cases hcases =>
    (builds_nodeFrom rfl hcases).bind fun block hblock =>
      builds_nodeFrom rfl (by simp [hsubjects, hblock])
  refine .ite (builds_pure_bind (hrest _ (by simp))) (Builds.bind (P := AllRegular) ?_ hrest)
  refine builds_iterate (I := AllRegular) (by simp) fun acc hacc => .next fun b =>
    .ite ?_ (.ite ?_ builds_failAt)
  · exact .next fun _ => builds_collected hacc
  · exact (builds_caseClause h b).bind fun t ht => builds_pure (by simp [ht, hacc])

theorem builds_matchStatement (h : ReadsBlocks self) (lead : Wanted) :
    Builds (matchStatement self lead) AllRegular := by
  intro s ts s' hts
  unfold matchStatement at hts
  split at hts
  next word subjects a s'' hhead =>
    have hsubjects := builds_matchHead lead s _ s'' hhead
    have hbody : Builds ((· :: []) <$> matchBody self word subjects a) AllRegular :=
      (builds_matchBody h word hsubjects a).map fun t ht => by simp [ht]
    exact hbody s'' ts s' hts
  next =>
    split at hts
    next r hr =>
      cases hts
      exact builds_simpleStatements lead s ts s' hr
    next => cases hts

/-! ### All statements -/

theorem builds_asyncStatement (h : ReadsBlocks self) (a : Ahead) (inBlock : Bool) :
    Builds (asyncStatement self a inBlock) AllRegular := by
  refine .next fun before => .next fun word => .next fun b => ?_
  split
  next => exact (builds_functionDefinition h _ _).single
  next => exact (builds_forStatement h _ _).single
  next => exact (builds_withStatement h _ _).single
  next => exact .next fun _ => builds_simpleStatements _

theorem builds_statement (h : ReadsBlocks self) (inBlock : Bool) :
    Builds (statement self inBlock) AllRegular := by
  refine .next fun a => ?_
  split
  next => exact (builds_ifStatement h a inBlock).single
  next => exact (builds_whileStatement h a inBlock).single
  next => exact (builds_forStatement h _ inBlock).single
  next => exact (builds_tryStatement h a inBlock).single
  next => exact (builds_withStatement h _ inBlock).single
  next => exact (builds_functionDefinition h _ _).single
  next => exact (builds_classDefinition h _).single
  next => exact builds_asyncStatement h a inBlock
  next => exact builds_matchStatement h _
  next => exact .ite ((builds_decoratedDefinition h inBlock).single) (builds_simpleStatements _)

end

theorem readsBlocks_statementWith (depth : Nat) : ReadsBlocks (statementWith depth) := by
  induction depth with
  | zero =>
    intro inBlock s ts s' hts
    cases hts
  | succ depth ih => exact builds_statement ih

theorem builds_statements : Builds statements AllRegular := by
  refine builds_iterate (I := AllRegular) (by simp) fun acc hacc => .next fun a =>
    .ite ?_ (.next fun s => ?_)
  · exact builds_collected hacc
  · exact (readsBlocks_statementWith _ _).bind fun ts hts => builds_pure (by simp [hts, hacc])

end Concrete

/-! ### Whole programs -/

namespace Syntax

namespace ParseTree

theorem label_place (leaf t : ParseTree) : (place leaf t).label = t.label := by
  cases t
  rw [place, label_node, label_node]

/-- The rule goes on to hold when a continued line end is put among the children. -/
theorem rule_placeAmong {k : Kind} {leaf : ParseTree} (hk : leaf.kind = .lineContinuation)
    (hf : leaf.label.field = none) (ts : List ParseTree) :
    ∀ ls, Rule k (ls ++ ts.map label) → Rule k (ls ++ (placeAmong leaf ts).map label) := by
  induction ts with
  | nil =>
    intro ls h
    rw [placeAmong]
    exact h.insert hk hf
  | cons t ts ih =>
    intro ls h
    rw [placeAmong]
    split
    · rwa [List.map_cons, label_place]
    · split
      · exact h.insert hk hf
      · rw [List.map_cons, List.append_cons] at h ⊢
        exact ih _ h

mutual

theorem Grammatical.place {leaf t : ParseTree} (hk : leaf.kind = .lineContinuation)
    (hf : leaf.label.field = none) (hleaf : leaf.Grammatical) (h : t.Grammatical) :
    (ParseTree.place leaf t).Grammatical := by
  cases t with
  | node l cs =>
    cases h with
    | node hrule hcs =>
      rw [ParseTree.place]
      exact ⟨rule_placeAmong hk hf cs [] hrule, Grammatical.placeAmong hk hf hleaf hcs⟩

/-- A continued line end can be put among grammatical trees. -/
theorem Grammatical.placeAmong {leaf : ParseTree} {ts : List ParseTree}
    (hk : leaf.kind = .lineContinuation) (hf : leaf.label.field = none) (hleaf : leaf.Grammatical)
    (h : ∀ t ∈ ts, t.Grammatical) :
    ∀ t ∈ ParseTree.placeAmong leaf ts, t.Grammatical := by
  cases ts with
  | nil => simpa [ParseTree.placeAmong] using hleaf
  | cons t ts =>
    rw [List.forall_mem_cons] at h
    rw [ParseTree.placeAmong]
    split
    · exact List.forall_mem_cons.2 ⟨Grammatical.place hk hf hleaf h.1, h.2⟩
    · split
      · exact List.forall_mem_cons.2 ⟨hleaf, List.forall_mem_cons.2 h⟩
      · exact List.forall_mem_cons.2 ⟨h.1, Grammatical.placeAmong hk hf hleaf h.2⟩

end

end ParseTree

end Syntax

namespace Concrete

open Syntax ParseTree

theorem grammatical_foldl_placeAmong (continuations : List Extent) :
    ∀ nodes : List ParseTree, (∀ t ∈ nodes, t.Grammatical) →
      ∀ t ∈ continuations.foldl (fun ns c => ParseTree.placeAmong (continuationLeaf c) ns) nodes,
        t.Grammatical := by
  induction continuations with
  | nil => exact fun _ h => h
  | cons c cs ih => exact fun nodes h => ih _ (Grammatical.placeAmong rfl rfl grammatical_leaf h)

theorem grammatical_of_accepted {cs : List Char} {t : ParseTree} (h : accepted cs = .ok t) :
    t.Grammatical := by
  unfold accepted at h
  split at h
  next => cases h
  next nodes s hs =>
    cases h
    exact (regular_node_of_grammatical rfl (grammatical_foldl_placeAmong _ nodes
      (builds_statements _ nodes s hs).grammatical)).1

theorem grammatical_faulty (cs : List Char) (e : Failure) : (faulty cs e).Grammatical := by
  unfold faulty
  split
  next =>
    exact (regular_node rfl (allRegular_cons.2 ⟨regular_node rfl allRegular_nil, allRegular_nil⟩)).1
  next => exact grammatical_leaf

end Concrete

/-- The tree of every text is grammatical. -/
theorem Syntax.ParseTree.grammatical_ofText (text : String) :
    (ParseTree.ofText text).Grammatical := by
  unfold ParseTree.ofText
  split
  next t ht => exact Concrete.grammatical_of_accepted ht
  next e _ => exact Concrete.grammatical_faulty _ e

end PythonAudit
