import PythonAudit.Concrete.Grammar

/-!
# Simple statements

Statements that end with their line. A statement that starts with expressions is read as a `Side`
first: if an assignment sign follows, the expressions turn out to be targets and another side comes
after it.
-/

namespace PythonAudit

namespace Concrete

open Syntax Concrete.Parser

/-- Passes a layout sign. -/
def pass (a : Ahead) (text : String) : Parser Unit :=
  set { a.state with trail := ⟨a.state.cursor, text⟩ :: a.state.trail }

/-- An expression of a simple statement. -/
def lineExpression (lead : Wanted) : Parser ParseTree :=
  Goal.parse (.expression Level.body lead inLine)

/-! ### Assignments -/

/-- One side of an assignment: expressions divided by commas, or a `yield` or assignment as a
whole. -/
inductive Side where
  | bare (es : List ParseTree) (comma : Bool) (extent : Extent)
  | whole (t : ParseTree)
deriving Inhabited

/-- A side as the value of an assignment. -/
def Side.value : Side → ParseTree
  | .bare [e] false _ => e
  | .bare es _ extent => .node { kind := .expressionList, extent } es
  | .whole t => t

/-- A side as the parts of a statement. -/
def Side.parts : Side → List ParseTree
  | .bare es _ _ => es
  | .whole t => [t]

/-- The target that expressions divided by commas stand for. -/
def targetOf (es : List ParseTree) (comma : Bool) (extent : Extent) : Option ParseTree :=
  match toTargets es with
  | none => none
  | some [t] => if comma then some (.node { kind := .patternList, extent } [t]) else some t
  | some ts => some (.node { kind := .patternList, extent } ts)

/-- A side with the assignments that follow it. The length of the chain is bounded by `depth`. -/
def side : Nat → Wanted → Parser Side
  | 0, lead => do failAt (← ahead lead)
  | depth + 1, lead => do
    let a ← ahead lead
    if a.isWord "yield" then return .whole (← yieldExpression Goal.parse lead inLine)
    else
      let (es, comma) ← items Goal.parse lead inLine
      let extent : Extent := ⟨a.point, ← here⟩
      let b ← ahead inLine.wanted
      if b.operator == "=" || augmentedOperators.contains b.operator then
        match targetOf es comma extent with
        | none => failAt b
        | some left =>
          let kind := if b.operator == "=" then Kind.assignment else .augmentedAssignment
          let _ ← take b b.operator.length
          let right := (← side depth operand).value
          return .whole (← nodeFrom kind a.point [left.withField .left, right.withField .right])
      else if b.startsWith ":" then
        match targetOf es comma extent with
        | none => failAt b
        | some left =>
          let _ ← take b 1
          let type ← Goal.parse (.typeHint operand inLine true)
          let annotated := [left.withField .left, type.withField .typeAnnotated]
          match ← takeOperator? inLine.wanted "=" with
          | none => return .whole (← nodeFrom .assignment a.point annotated)
          | some _ =>
            let right := (← side depth operand).value
            return .whole (← nodeFrom .assignment a.point (annotated ++ [right.withField .right]))
      else return .bare es comma extent

/-- A statement that starts with an expression. -/
def expressionStatement (lead : Wanted) : Parser ParseTree := do
  let a ← ahead lead
  let s ← side (← get).bound lead
  nodeFrom .expressionStatement a.point s.parts

/-- Succeeds where a simple statement can end. -/
def lineEnds : Parser Unit := do
  let a ← ahead inLine.wanted
  if a.sign == .newline || a.operator == ";" then return () else failAt a

/-! ### Imports -/

/-- A module or name to import, perhaps under another name. -/
def importedName (lead : Wanted) (follow : Follow) : Parser ParseTree := do
  let name ← dottedName lead follow
  match ← takeKeyword? follow.wanted "as" with
  | none => return name.withField .name
  | some _ =>
    let other ← takeWord (← ahead {})
    let whole ← nodeFrom .aliasedImport name.extent.start
      [name.withField .name, (other.leaf .identifier).withField .aliasName]
    return whole.withField .name

/-- Names to import, divided by commas. -/
def importedNames (lead : Wanted) (follow : Follow) : Parser (List ParseTree) := do
  let first ← importedName lead follow
  iterate (fun (acc : List ParseTree) => do
    match ← takeOperator? follow.wanted "," with
    | none => return .inr acc.reverse
    | some _ =>
      if (← ahead follow.wanted).word?.isSome then
        return .inl ((← importedName follow.wanted follow) :: acc)
      else return .inr acc.reverse) [first]

/-- Names to import, perhaps in parentheses. -/
def importedList : Parser (List ParseTree) := do
  match ← takeOperator? {} "(" with
  | some _ =>
    let names ← importedNames {} inBrackets
    let _ ← takeOperator inBrackets.wanted ")"
    return names
  | none => importedNames {} inLine

/-- The dots of a relative import. -/
def importDots : Parser (List Token) :=
  iterate (fun (acc : List Token) => do
    let a ← ahead {}
    if a.startsWith "." then return .inl ((← take a 1) :: acc) else return .inr acc.reverse) []

/-- The module of a `from` import. -/
def importSource : Parser ParseTree := do
  match ← importDots with
  | [] => dottedName {} {}
  | d :: ds =>
    let last := (ds.getLast?.getD d).extent.stop
    let dots : ParseTree := .node { kind := .importPrefix, extent := ⟨d.extent.start, last⟩ } []
    let a ← ahead {}
    let names ←
      if a.word?.isSome && !a.isWord "import" then do pure [← dottedName {} {}] else pure []
    nodeFrom .relativeImport d.extent.start (dots :: names)

/-- A `from` import. -/
def fromImport (lead : Wanted) : Parser ParseTree := do
  let word ← takeKeyword lead "from"
  let start := word.extent.start
  let a ← ahead {}
  if a.isWord "__future__" then
    let _ ← takeWord a
    let _ ← takeKeyword {} "import"
    nodeFrom .futureImportStatement start (← importedList)
  else
    let source ← importSource
    let _ ← takeKeyword {} "import"
    let b ← ahead {}
    let names ←
      if b.operator == "*" then do pure [(← take b 1).leaf .wildcardImport]
      else importedList
    nodeFrom .importFromStatement start (source.withField .moduleName :: names)

/-! ### Statements of older versions -/

/-- Arguments of a `print` statement after a comma, perhaps ending with a comma. -/
def printArguments (first : List ParseTree) : Parser (List ParseTree) :=
  iterate (fun (acc : List ParseTree) => do
    match ← takeOperator? inLine.wanted "," with
    | none => return .inr acc.reverse
    | some _ =>
      let more : Wanted := { inLine.wanted with string := true }
      if (← ahead more).startsOperand then
        return .inl ((← lineExpression more).withField .argument :: acc)
      else return .inr acc.reverse) first

/-- A `print` statement. -/
def printStatement (lead : Wanted) : Parser ParseTree := do
  let word ← takeKeyword lead "print"
  let a ← ahead operand
  let first ←
    if a.operator == ">>" then do
      let arrow ← take a 2
      let e ← lineExpression operand
      nodeFrom .chevron arrow.extent.start [e]
    else do pure ((← lineExpression operand).withField .argument)
  nodeFrom .printStatement word.extent.start (← printArguments [first])

/-- Expressions divided by commas, without a comma at the end. -/
def strictItems (follow : Follow) : Parser (List ParseTree) := do
  let first ← Goal.parse (.expression Level.body operand follow)
  iterate (fun (acc : List ParseTree) => do
    match ← takeOperator? follow.wanted "," with
    | none => return .inr acc.reverse
    | some _ => return .inl ((← Goal.parse (.expression Level.body operand follow)) :: acc)) [first]

/-- An `exec` statement. -/
def execStatement (lead : Wanted) : Parser ParseTree := do
  let word ← takeKeyword lead "exec"
  let a ← ahead { newline := true, string := true }
  let code ←
    match a.sign with
    | .quote q n => stringLiteral Goal.parse a q n
    | _ => do pure ((← takeWord a).leaf .identifier)
  let scope ←
    match ← takeKeyword? inLine.wanted "in" with
    | some _ => strictItems inLine
    | none => pure []
  nodeFrom .execStatement word.extent.start (code.withField .code :: scope)

/-- Words that go on with an expression after a name. -/
def infixWords : List String := ["in", "if", "and", "or", "is", "not", "as"]

/-- What follows the word `exec` makes it a statement. -/
def startsExec (lead : Wanted) : Parser Bool := do
  let before ← get
  let _ ← takeKeyword lead "exec"
  let a ← ahead { newline := true, string := true }
  set before
  match a.sign with
  | .quote _ _ => return true
  | _ => return a.word?.any fun w => !infixWords.contains w

/-- A type alias. -/
def typeAlias (lead : Wanted) : Parser ParseTree := do
  let word ← takeKeyword lead "type"
  let left ← Goal.parse (.typeHint operand {} true)
  let _ ← takeOperator {} "="
  let right ← Goal.parse (.typeHint operand inLine true)
  nodeFrom .typeAliasStatement word.extent.start [left.withField .left, right.withField .right]

/-! ### All simple statements -/

/-- A statement of one word and perhaps expressions. -/
def wordAndExpressions (a : Ahead) (kind : Kind) : Parser ParseTree := do
  let word ← takeWord a
  let more : Wanted := { newline := true, string := true }
  if (← ahead more).startsOperand then
    nodeFrom kind word.extent.start [← expressions Goal.parse more inLine]
  else nodeFrom kind word.extent.start []

/-- A `raise` statement. -/
def raiseStatement (a : Ahead) : Parser ParseTree := do
  let word ← takeWord a
  let more : Wanted := { newline := true, string := true }
  let b ← ahead more
  let raised ←
    if b.startsOperand && !b.isWord "from" then do pure [← expressions Goal.parse more inLine]
    else pure []
  match ← takeKeyword? inLine.wanted "from" with
  | none => nodeFrom .raiseStatement word.extent.start raised
  | some _ =>
    let cause ← lineExpression operand
    nodeFrom .raiseStatement word.extent.start (raised ++ [cause.withField .cause])

/-- Names divided by commas after a word. -/
def nameStatement (a : Ahead) (kind : Kind) : Parser ParseTree := do
  let word ← takeWord a
  let first := (← takeWord (← ahead {})).leaf .identifier
  let names ← iterate (fun (acc : List ParseTree) => do
    match ← takeOperator? inLine.wanted "," with
    | none => return .inr acc.reverse
    | some _ => return .inl ((← takeWord (← ahead {})).leaf .identifier :: acc)) [first]
  nodeFrom kind word.extent.start names

/-- A statement of a single word. -/
def wordStatement (a : Ahead) (kind : Kind) : Parser ParseTree := do
  return (← takeWord a).leaf kind

/-- One simple statement. -/
def simpleStatement (lead : Wanted) : Parser ParseTree := do
  let a ← ahead lead
  match a.word? with
  | some "import" =>
    let word ← takeWord a
    nodeFrom .importStatement word.extent.start (← importedNames {} inLine)
  | some "from" => fromImport lead
  | some "print" =>
    let before ← get
    let _ ← takeWord a
    let b ← ahead { newline := true, string := true }
    set before
    if b.operator == ">>" then printStatement lead
    else orElse (do
      let e ← expressionStatement lead
      lineEnds
      return e) (printStatement lead)
  | some "assert" =>
    let word ← takeWord a
    nodeFrom .assertStatement word.extent.start (← strictItems inLine)
  | some "return" => wordAndExpressions a .returnStatement
  | some "del" =>
    let word ← takeWord a
    nodeFrom .deleteStatement word.extent.start [← expressions Goal.parse operand inLine]
  | some "raise" => raiseStatement a
  | some "pass" => wordStatement a .passStatement
  | some "break" => wordStatement a .breakStatement
  | some "continue" => wordStatement a .continueStatement
  | some "global" => nameStatement a .globalStatement
  | some "nonlocal" => nameStatement a .nonlocalStatement
  | some "exec" => if ← startsExec lead then execStatement lead else expressionStatement lead
  | some "type" =>
    orElse (do
      let t ← typeAlias lead
      lineEnds
      return t) (expressionStatement lead)
  | _ => expressionStatement lead

/-- The simple statements of one line. -/
def simpleStatements (lead : Wanted) : Parser (List ParseTree) := do
  let first ← simpleStatement lead
  iterate (fun (acc : List ParseTree) => do
    let a ← ahead inLine.wanted
    if a.sign == .newline then
      pass a "\n"
      return .inr acc.reverse
    else if a.operator == ";" then
      let _ ← take a 1
      let more : Wanted := { newline := true, string := true }
      let b ← ahead more
      if b.sign == .newline then
        pass b "\n"
        return .inr acc.reverse
      else return .inl ((← simpleStatement more) :: acc)
    else failAt a) [first]

end Concrete

end PythonAudit
