import PythonAudit.Concrete.Simple

/-!
# Compound statements

The statements that have blocks, as functions of a parser `self` for the statements of a block. The
argument of `self` tells whether the statements stand in a block.
-/

namespace PythonAudit

namespace Concrete

open Syntax Concrete.Parser

/-- The signs wanted at the start of a statement. -/
def statementLead (inBlock : Bool) : Wanted := { string := true, dedent := inBlock }

/-- An expression in the head of a compound statement. -/
def headExpression : Parser ParseTree :=
  Goal.parse (.expression Level.body operand inHead)

section

variable (self : Bool → Parser (List ParseTree))

/-! ### Blocks -/

/-- A block from the first of its statements on. -/
def blockOf (statements : List ParseTree) : Parser ParseTree := do
  let stop ← here
  let start := (statements.head?.map (·.extent.start)).getD stop
  return .node { kind := .block, extent := ⟨start, stop⟩ } statements

/-- What follows the colon of a compound statement: statements on the same line, or an indented
block, or nothing. -/
def suite : Parser ParseTree := do
  let lead : Wanted := { newline := true, indent := true, string := true }
  let a ← ahead lead
  match a.sign with
  | .indent =>
    pass a "\n"
    let statements ← iterate (fun (acc : List ParseTree) => do
      let b ← ahead (statementLead true)
      if b.sign == .dedent then
        pass b "\n"
        return .inr acc
      else return .inl (acc ++ (← self true))) []
    blockOf statements
  | .newline =>
    pass a "\n"
    blockOf []
  | _ => blockOf (← simpleStatements lead)

/-- A colon and what follows it. -/
def colonSuite : Parser ParseTree := do
  let _ ← takeColon {}
  suite self

/-- An `else` clause, if one follows. -/
def elseClause? (lead : Wanted) : Parser (Option ParseTree) := do
  match ← takeKeyword? lead "else" with
  | none => return none
  | some word =>
    let body ← colonSuite self
    return some (← nodeFrom .elseClause word.extent.start [body.withField .body])

/-! ### Branches and loops -/

/-- An `if` statement. -/
def ifStatement (a : Ahead) (inBlock : Bool) : Parser ParseTree := do
  let word ← takeWord a
  let condition ← headExpression
  let body ← colonSuite self
  let lead := statementLead inBlock
  let branches ← iterate (fun (acc : List ParseTree) => do
    match ← takeKeyword? lead "elif" with
    | some w =>
      let c ← headExpression
      let b ← colonSuite self
      let branch ← nodeFrom .elifClause w.extent.start
        [c.withField .condition, b.withField .consequence]
      return .inl (branch.withField .alternative :: acc)
    | none =>
      match ← elseClause? self lead with
      | some e => return .inr (e.withField .alternative :: acc).reverse
      | none => return .inr acc.reverse) []
  nodeFrom .ifStatement word.extent.start
    (condition.withField .condition :: body.withField .consequence :: branches)

/-- A `while` statement. -/
def whileStatement (a : Ahead) (inBlock : Bool) : Parser ParseTree := do
  let word ← takeWord a
  let condition ← headExpression
  let body ← colonSuite self
  let other ← elseClause? self (statementLead inBlock)
  nodeFrom .whileStatement word.extent.start
    ([condition.withField .condition, body.withField .body] ++
      other.toList.map (·.withField .alternative))

/-- A `for` statement after the word `async` that may precede it. -/
def forStatement (start : Point) (inBlock : Bool) : Parser ParseTree := do
  let _ ← takeKeyword (statementLead inBlock) "for"
  let left ← loopTarget Goal.parse
  let _ ← takeKeyword {} "in"
  let right ← expressions Goal.parse operand inHead
  let body ← colonSuite self
  let other ← elseClause? self (statementLead inBlock)
  nodeFrom .forStatement start
    ([left.withField .left, right.withField .right, body.withField .body] ++
      other.toList.map (·.withField .alternative))

/-! ### Handlers -/

/-- An `except` clause. -/
def exceptClause (a : Ahead) : Parser ParseTree := do
  let word ← takeWord a
  let b ← ahead operand
  let value ←
    if b.startsWith ":" then pure []
    else do
      let v ← headExpression
      match ← takeOperator? {} "," with
      | none => pure [v.withField .value]
      | some _ => do
        let n ← headExpression
        pure [v.withField .value, n.withField .aliasName]
  let body ← colonSuite self
  nodeFrom .exceptClause word.extent.start (value ++ [body])

/-- An `except*` clause. -/
def exceptGroupClause (a : Ahead) : Parser ParseTree := do
  let word ← take a 7
  let value ← headExpression
  let body ← colonSuite self
  nodeFrom .exceptGroupClause word.extent.start [value, body]

/-- The signs wanted after the block of a `try`. -/
def handlerLead : Wanted := { handler := true }

/-- The handlers after the block of a `try`, all of one kind. -/
def handlers (inBlock : Bool) : Parser (List ParseTree) := do
  let a ← ahead handlerLead
  let group := a.startsWith "except*"
  let lead : Wanted := { statementLead inBlock with handler := true }
  iterate (fun (acc : List ParseTree) => do
    let b ← ahead (if acc.isEmpty then handlerLead else lead)
    if b.isWord "except" && b.startsWith "except*" == group then
      let clause ← if group then exceptGroupClause self b else exceptClause self b
      return .inl (clause :: acc)
    else return .inr acc.reverse) []

/-- A `finally` clause, if one follows. -/
def finallyClause? (lead : Wanted) : Parser (Option ParseTree) := do
  match ← takeKeyword? lead "finally" with
  | none => return none
  | some word =>
    let body ← colonSuite self
    return some (← nodeFrom .finallyClause word.extent.start [body])

/-- A `try` statement. -/
def tryStatement (a : Ahead) (inBlock : Bool) : Parser ParseTree := do
  let word ← takeWord a
  let body ← colonSuite self
  let caught ← handlers self inBlock
  let lead : Wanted := { statementLead inBlock with handler := true }
  let rest ←
    if caught.isEmpty then do
      match ← finallyClause? self handlerLead with
      | some f => pure [f]
      | none => failAt (← ahead handlerLead)
    else do
      let other ← elseClause? self lead
      let final ← finallyClause? self lead
      pure (caught ++ other.toList ++ final.toList)
  nodeFrom .tryStatement word.extent.start (body.withField .body :: rest)

/-! ### Managed contexts -/

/-- Wraps an expression as an item of a `with` statement. -/
def asItem (e : ParseTree) : ParseTree :=
  .node { kind := .withItem, extent := e.extent } [e.withField .value]

/-- An item of a `with` statement in parentheses. -/
def parenthesizedItem (lead : Wanted) : Parser ParseTree := do
  let a ← ahead lead
  if a.isWord "yield" then failAt a
  else return asItem (← Goal.parse (.expression Level.body lead inBrackets))

/-- Two or more items in parentheses, with the colon after them. -/
def parenthesizedItems : Parser ParseTree := do
  let bracket ← takeOperator operand "("
  let first ← parenthesizedItem operandOrClose
  let all ← iterate (fun (acc : List ParseTree) => do
    match ← takeOperator? inBrackets.wanted "," with
    | none =>
      let _ ← takeOperator inBrackets.wanted ")"
      return .inr acc.reverse
    | some _ =>
      let a ← ahead operandOrClose
      if a.operator == ")" then
        let _ ← take a 1
        return .inr acc.reverse
      else return .inl ((← parenthesizedItem operandOrClose) :: acc)) [first]
  let a ← ahead {}
  if a.startsWith ":" && 2 ≤ all.length then nodeFrom .withClause bracket.extent.start all
  else failAt a

/-- The items of a `with` statement without parentheses around them. -/
def plainItems : Parser ParseTree := do
  let (es, _) ← items Goal.parse operand inHead
  let start := (es.head?.map (·.extent.start)).getD (← here)
  nodeFrom .withClause start (es.map asItem)

/-- A `with` statement after the word `async` that may precede it. -/
def withStatement (start : Point) (inBlock : Bool) : Parser ParseTree := do
  let _ ← takeKeyword (statementLead inBlock) "with"
  let clause ← orElse parenthesizedItems plainItems
  let body ← colonSuite self
  nodeFrom .withStatement start [clause, body.withField .body]

/-! ### Definitions -/

/-- A function definition after the word `async` that may precede it. -/
def functionDefinition (start : Point) (lead : Wanted) : Parser ParseTree := do
  let _ ← takeKeyword lead "def"
  let name := (← takeWord (← ahead {})).leaf .identifier
  let a ← ahead {}
  let types ←
    if a.operator == "[" then do pure [(← typeParameters Goal.parse a).withField .typeParameters]
    else pure []
  let params ← parameters Goal.parse
  let b ← ahead {}
  let result ←
    if b.startsWith "->" then do
      let _ ← take b 2
      pure [(← Goal.parse (.typeHint operand inHead false)).withField .returnType]
    else pure []
  let body ← colonSuite self
  nodeFrom .functionDefinition start
    (name.withField .name :: types ++ params.withField .parameters :: result ++
      [body.withField .body])

/-- A class definition. -/
def classDefinition (lead : Wanted) : Parser ParseTree := do
  let word ← takeKeyword lead "class"
  let name := (← takeWord (← ahead {})).leaf .identifier
  let a ← ahead {}
  let types ←
    if a.operator == "[" then do pure [(← typeParameters Goal.parse a).withField .typeParameters]
    else pure []
  let b ← ahead {}
  let bases ←
    if b.operator == "(" then do
      let args ← arguments Goal.parse b
      if args.kind == .argumentList then pure [args.withField .superclasses] else failAt b
    else pure []
  let body ← colonSuite self
  nodeFrom .classDefinition word.extent.start
    (name.withField .name :: types ++ bases ++ [body.withField .body])

/-- Decorators and the definition after them. -/
def decoratedDefinition (inBlock : Bool) : Parser ParseTree := do
  let a ← ahead (statementLead inBlock)
  let start := a.point
  iterate (fun (acc : List ParseTree) => do
    let lead : Wanted := if acc.isEmpty then statementLead inBlock else {}
    let b ← ahead lead
    if b.operator == "@" then
      let sign ← take b 1
      let e ← lineExpression operand
      let c ← ahead inLine.wanted
      if c.sign == .newline then
        let d ← nodeFrom .decorator sign.extent.start [e]
        pass c "\n"
        return .inl (d :: acc)
      else failAt c
    else
      let definition ←
        if b.isWord "class" then classDefinition self lead
        else if b.isWord "async" then do
          let _ ← takeWord b
          functionDefinition self b.point {}
        else functionDefinition self b.point lead
      return .inr (← nodeFrom .decoratedDefinition start
        (acc.reverse ++ [definition.withField .definition]))) []

/-! ### Pattern matching -/

/-- The patterns of a `case` clause, divided by commas. -/
def casePatterns : Parser (List ParseTree) := do
  let first ← Goal.parse (.pattern operand)
  iterate (fun (acc : List ParseTree) => do
    match ← takeOperator? {} "," with
    | none => return .inr acc.reverse
    | some _ =>
      let a ← ahead operand
      if a.startsWith ":" || a.isWord "if" then return .inr acc.reverse
      else return .inl ((← Goal.parse (.pattern operand)) :: acc)) [first]

/-- A `case` clause. -/
def caseClause (a : Ahead) : Parser ParseTree := do
  let word ← takeWord a
  let patterns ← casePatterns
  let guard ←
    match ← takeKeyword? {} "if" with
    | none => pure []
    | some w => do
      let e ← headExpression
      pure [(← nodeFrom .ifClause w.extent.start [e]).withField .guard]
  let body ← colonSuite self
  nodeFrom .caseClause word.extent.start (patterns ++ guard ++ [body.withField .consequence])

/-- The head of a `match` statement, up to the layout sign after its colon. -/
def matchHead (lead : Wanted) : Parser (Token × List ParseTree × Ahead) := do
  let word ← takeKeyword lead "match"
  let (subjects, _) ← items Goal.parse operand inHead
  let _ ← takeColon {}
  let a ← ahead { newline := true, indent := true }
  if a.sign == .newline || a.sign == .indent then return (word, subjects, a) else failAt a

/-- The rest of a `match` statement after its head. -/
def matchBody (word : Token) (subjects : List ParseTree) (a : Ahead) : Parser ParseTree := do
  pass a "\n"
  let start := a.point
  let cases ←
    if a.sign == .newline then pure []
    else iterate (fun (acc : List ParseTree) => do
      let b ← ahead { dedent := true }
      if b.sign == .dedent then
        pass b "\n"
        return .inr acc.reverse
      else if b.isWord "case" then
        return .inl ((← caseClause self b).withField .alternative :: acc)
      else failAt b) []
  let block ← nodeFrom .block start cases
  nodeFrom .matchStatement word.extent.start
    (subjects.map (·.withField .subject) ++ [block.withField .body])

/-- A `match` statement; when no such head can be read, the word is a name in simple statements. -/
def matchStatement (lead : Wanted) : Parser (List ParseTree) := fun s =>
  match matchHead lead s with
  | .ok ((word, subjects, a), s') => ((· :: []) <$> matchBody self word subjects a) s'
  | .error e =>
    match simpleStatements lead s with
    | .ok r => .ok r
    | .error e' => .error (e.further e')

/-! ### All statements -/

/-- A statement that starts with the word `async`. -/
def asyncStatement (a : Ahead) (inBlock : Bool) : Parser (List ParseTree) := do
  let before ← get
  let word ← takeWord a
  let b ← ahead {}
  match b.word? with
  | some "def" => return [← functionDefinition self word.extent.start {}]
  | some "for" => return [← forStatement self word.extent.start inBlock]
  | some "with" => return [← withStatement self word.extent.start inBlock]
  | _ =>
    set before
    simpleStatements (statementLead inBlock)

/-- One compound statement, or the simple statements of one line. -/
def statement (inBlock : Bool) : Parser (List ParseTree) := do
  let lead := statementLead inBlock
  let a ← ahead lead
  match a.word? with
  | some "if" => return [← ifStatement self a inBlock]
  | some "while" => return [← whileStatement self a inBlock]
  | some "for" => return [← forStatement self a.point inBlock]
  | some "try" => return [← tryStatement self a inBlock]
  | some "with" => return [← withStatement self a.point inBlock]
  | some "def" => return [← functionDefinition self a.point lead]
  | some "class" => return [← classDefinition self lead]
  | some "async" => asyncStatement self a inBlock
  | some "match" => matchStatement self lead
  | _ =>
    if a.operator == "@" then return [← decoratedDefinition self inBlock]
    else simpleStatements lead

end

/-- Reads statements to a bounded nesting of blocks. -/
def statementWith : Nat → Bool → Parser (List ParseTree)
  | 0, _ => fun s => .error ⟨s.cursor, s.trail⟩
  | depth + 1, inBlock => statement (statementWith depth) inBlock

/-- All statements of a text. -/
def statements : Parser (List ParseTree) := do
  iterate (fun (acc : List ParseTree) => do
    let a ← ahead (statementLead false)
    if a.sign == .text && a.chars.isEmpty then return .inr acc.reverse
    else return .inl ((← statementWith (← get).bound false).reverse ++ acc)) []

end Concrete

end PythonAudit
