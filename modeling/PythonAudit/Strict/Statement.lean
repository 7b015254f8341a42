import PythonAudit.Strict.Grammar

/-!
# Statements of Python 3

Simple statements, compound statements as functions of a rule for the statements of a block, and
whole programs. `checkProgram` is the verdict on a text.
-/

namespace PythonAudit

namespace Strict

open Rule

section

variable (self : Part → Rule Value)

/-! ### Simple statements -/

/-- The value of an assignment. -/
def assignedValue : Rule Unit := do
  if (← peek) == some (.word "yield") then
    let _ ← yieldExpression self
  else testList self

/-- Any number of equals signs with values. -/
def assignedValues : Rule Unit :=
  iterate (fun () => do
    if ← takeSign? "=" then
      assignedValue self
      return .inl ()
    else return .inr ()) ()

/-- The signs that assign to a target and use its value. -/
def augmentedSigns : List String :=
  ["+=", "-=", "*=", "/=", "//=", "%=", "@=", "&=", "|=", "^=", "<<=", ">>=", "**="]

/-- The next token assigns to a target and uses its value. -/
def nextIsAugmented : Rule Bool := do
  match ← peek with
  | some (.sign g) => return augmentedSigns.contains g
  | _ => return false

/-- A statement that starts with an expression. -/
def expressionStatement : Rule Unit := do
  let first ← starredTest self
  let several ← moreItems startsStarred (starredTest self)
  if !several && first.form == .plain && (← nextIs ":") then
    takeSign ":"
    let _ ← self .test
    if ← takeSign? "=" then assignedValue self
  else if ← nextIsAugmented then
    let _ ← take
    assignedValue self
  else assignedValues self

/-- A name with attributes. -/
def dottedName : Rule Unit := do
  let _ ← takeName
  let _ ← attributes

/-- A name after `as`, if one comes next. -/
def otherName : Rule Unit := do
  if ← takeWord? "as" then
    let _ ← takeName

/-- An `import` statement after its first word. -/
def importStatement : Rule Unit := do
  let _ ← strictItems (do dottedName; otherName)

/-- The dots of a relative import; the answer tells whether there are any. -/
def importDots : Rule Bool :=
  iterate (fun (seen : Bool) => do
    if (← nextIs ".") || (← nextIs "...") then
      let _ ← take
      return .inl true
    else return .inr seen) false

/-- A name to import. -/
def importedName : Rule Unit := do
  let _ ← takeName
  otherName

/-- A `from` statement after its first word. -/
def fromStatement : Rule Unit := do
  let dots ← importDots
  if (← nextIsName) || !dots then dottedName
  takeWord "import"
  if ← takeSign? "*" then return ()
  else if ← takeSign? "(" then
    let _ ← items (fun t => t matches .name _) importedName
    takeSign ")"
  else
    let _ ← strictItems importedName

/-- A `raise` statement after its first word. -/
def raiseStatement : Rule Unit := do
  if (← peek).any startsTest then
    let _ ← self .test
    if ← takeWord? "from" then
      let _ ← self .test

/-- An `assert` statement after its first word. -/
def assertStatement : Rule Unit := do
  let _ ← self .test
  if ← takeSign? "," then
    let _ ← self .test

/-- The parameters of a type, if there are any. -/
def typeParameters : Rule Unit := do
  if ← takeSign? "[" then
    let _ ← items (fun t => t == .sign "*" || t == .sign "**" || (t matches .name _)) (do
      if ← takeSign? "*" then
        let _ ← takeName
      else if ← takeSign? "**" then
        let _ ← takeName
      else
        let _ ← takeName
        if ← takeSign? ":" then
          let _ ← self .test)
    takeSign "]"

/-- A type alias after its first word. -/
def typeAlias : Rule Unit := do
  let _ ← takeName
  typeParameters self
  takeSign "="
  let _ ← self .test

/-- A simple statement. -/
def simpleStatement : Rule Unit := do
  match ← peek with
  | some (.word w) =>
    if ["pass", "break", "continue"].contains w then
      let _ ← take
    else if w == "del" then
      let _ ← take
      targetList self
    else if w == "return" then
      let _ ← take
      if (← peek).any startsStarred then testList self
    else if w == "raise" then
      let _ ← take
      raiseStatement self
    else if w == "global" || w == "nonlocal" then
      let _ ← take
      let _ ← strictItems takeName
    else if w == "import" then
      let _ ← take
      importStatement
    else if w == "from" then
      let _ ← take
      fromStatement
    else if w == "assert" then
      let _ ← take
      assertStatement self
    else if w == "type" then
      let _ ← take
      typeAlias self
    else if w == "yield" then
      let _ ← yieldExpression self
    else expressionStatement self
  | _ => expressionStatement self

/-- The simple statements of a line, with the line end. -/
def simpleLine : Rule Unit := do
  simpleStatement self
  iterate (fun () => do
    if ← takeSign? ";" then
      if ← takeToken? .newline then return .inr ()
      else
        simpleStatement self
        return .inl ()
    else
      takeToken .newline
      return .inr ()) ()

/-! ### Blocks -/

variable (statement : Rule Unit)

/-- The lines of a block after its first line end. -/
def indented (first next : Rule Unit) : Rule Unit := do
  if !(← takeToken? .indent) then refuseBlock
  first
  iterate (fun () => do
    if ← takeToken? .dedent then return .inr ()
    else
      next
      return .inl ()) ()

/-- What follows the colon of a compound statement. -/
def block : Rule Unit := do
  if ← takeToken? .newline then indented statement statement else simpleLine self

/-- A colon and a block. -/
def colonBlock : Rule Unit := do
  takeSign ":"
  block self statement

/-- A clause of a word, a colon and a block, if the word comes next. -/
def clause? (w : String) : Rule Bool := do
  if ← takeWord? w then
    colonBlock self statement
    return true
  else return false

/-! ### Compound statements -/

/-- An `if` statement after its first word. -/
def ifStatement : Rule Unit := do
  let _ ← namedTest self
  colonBlock self statement
  iterate (fun () => do
    if ← takeWord? "elif" then
      let _ ← namedTest self
      colonBlock self statement
      return .inl ()
    else
      let _ ← clause? self statement "else"
      return .inr ()) ()

/-- A `while` statement after its first word. -/
def whileStatement : Rule Unit := do
  let _ ← namedTest self
  colonBlock self statement
  let _ ← clause? self statement "else"

/-- A `for` statement after its first word. -/
def forStatement : Rule Unit := do
  targetList self
  takeWord "in"
  testList self
  colonBlock self statement
  let _ ← clause? self statement "else"

/-- An `except` clause after its first word. -/
def exceptClause (group : Bool) : Rule Unit := do
  if group then takeSign "*"
  if group || (← peek).any startsTest then
    let _ ← self .test
    otherName
  colonBlock self statement

/-- The `except` clauses of a `try` statement, all with a star or all without one. -/
def exceptClauses : Rule Unit := do
  takeWord "except"
  let group ← nextIs "*"
  exceptClause self statement group
  iterate (fun () => do
    if ← takeWord? "except" then
      exceptClause self statement group
      return .inl ()
    else return .inr ()) ()

/-- A `try` statement after its first word. -/
def tryStatement : Rule Unit := do
  colonBlock self statement
  if !(← clause? self statement "finally") then
    exceptClauses self statement
    let _ ← clause? self statement "else"
    let _ ← clause? self statement "finally"

/-- An item of a `with` statement. -/
def withItem : Rule Unit := do
  let _ ← self .test
  if ← takeWord? "as" then
    let _ ← self .operand

/-- The items of a `with` statement without parentheses around them, up to the colon. -/
def plainItems : Rule Unit := do
  let _ ← strictItems (withItem self)
  takeSign ":"

/-- The items of a `with` statement with parentheses around them, up to the colon. -/
def parenthesizedItems : Rule Unit := do
  takeSign "("
  let _ ← items startsTest (withItem self)
  takeSign ")"
  takeSign ":"

/-- A `with` statement after its first word. -/
def withStatement : Rule Unit := do
  orElse (plainItems self) (parenthesizedItems self)
  block self statement

/-- A function definition after the word `def`. -/
def functionDefinition : Rule Unit := do
  let _ ← takeName
  typeParameters self
  takeSign "("
  let s ← parameterList self true ")"
  takeSign ")"
  keepFault s.checkNames
  if ← takeSign? "->" then
    let _ ← self .test
  colonBlock self statement

/-- A class definition after its first word. -/
def classDefinition : Rule Unit := do
  let _ ← takeName
  typeParameters self
  if ← takeSign? "(" then arguments self
  colonBlock self statement

/-- What may follow the word `async`. -/
def asyncStatement : Rule Unit := do
  if ← takeWord? "def" then functionDefinition self statement
  else if ← takeWord? "for" then forStatement self statement
  else if ← takeWord? "with" then withStatement self statement
  else refuse

/-- Decorators and the definition after them. -/
def decorated : Rule Unit :=
  iterate (fun () => do
    if ← takeSign? "@" then
      let _ ← namedTest self
      takeToken .newline
      return .inl ()
    else if ← takeWord? "class" then
      classDefinition self statement
      return .inr ()
    else
      let _ ← takeWord? "async"
      takeWord "def"
      functionDefinition self statement
      return .inr ()) ()

/-- A `case` clause. -/
def caseClause : Rule Unit := do
  takeWord "case"
  let _ ← items startsPattern (self .pattern)
  if ← takeWord? "if" then
    let _ ← namedTest self
  colonBlock self statement

/-- A `match` statement after its first word. -/
def matchStatement : Rule Unit := do
  let _ ← items startsStarred (starredNamedTest self)
  takeSign ":"
  takeToken .newline
  indented (caseClause self statement) (caseClause self statement)

/-- A compound statement, or the simple statements of a line. -/
def statementStep : Rule Unit := do
  match ← peek with
  | some (.word w) =>
    if w == "if" then
      let _ ← take
      ifStatement self statement
    else if w == "while" then
      let _ ← take
      whileStatement self statement
    else if w == "for" then
      let _ ← take
      forStatement self statement
    else if w == "try" then
      let _ ← take
      tryStatement self statement
    else if w == "with" then
      let _ ← take
      withStatement self statement
    else if w == "def" then
      let _ ← take
      functionDefinition self statement
    else if w == "class" then
      let _ ← take
      classDefinition self statement
    else if w == "async" then
      let _ ← take
      asyncStatement self statement
    else if w == "match" then
      let _ ← take
      matchStatement self statement
    else simpleLine self
  | some (.sign "@") => decorated self statement
  | _ => simpleLine self

end

/-! ### Programs -/

/-- Reads a statement to a bounded nesting of blocks. -/
def statementWith (self : Part → Rule Value) : Nat → Rule Unit
  | 0 => refuse
  | depth + 1 => statementStep self (statementWith self depth)

/-- All statements of a text. -/
def program (check : List Char → Except Fault Unit) : Rule Unit :=
  iterate (fun () => do
    let s ← get
    if s.rest.isEmpty && s.ending.isNone then return .inr ()
    else if ← takeToken? .newline then return .inl ()
    else
      statementWith (Part.parse check) s.bound
      return .inl ()) ()

/-- The verdict on a text: the first fault, if there is one. -/
def checkProgram (text : List Char) : Except Located Unit :=
  let stream := resolveSoft (lex text) true
  (program (checkExpression text.length)).outcome (State.start stream)

end Strict

end PythonAudit
