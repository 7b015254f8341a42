import PythonAudit.Strict.Argument
import PythonAudit.Strict.Rule

/-!
# Expressions of Python 3

The rules tell which token is the first that cannot be read, and find the constructs that are not
allowed. Of an expression they keep its start and whether it is starred or named. They are functions
of a rule `self` for their own recursive parts, and of a checker for the expressions inside format
strings.
-/

namespace PythonAudit

namespace Strict

open Rule

/-! ### What expressions leave behind -/

/-- Whether an expression stands by itself, after a star, or after a name and the sign `:=`. -/
inductive Form where
  | plain
  | starred
  | named
deriving DecidableEq, Repr, Inhabited

/-- What is kept of an expression: its start, without parentheses around it, and its form. -/
structure Value where
  start : Nat
  form : Form := .plain
deriving DecidableEq, Repr, Inhabited

/-- The recursive parts of the grammar. -/
inductive Part where
  | test
  | operand
  | factor
  | pattern
deriving DecidableEq, Repr, Inhabited

/-! ### First tokens -/

/-- The token can start an operand. -/
def startsOperand : Token → Bool
  | .name _ => true
  | .integer _ => true
  | .float _ => true
  | .imaginary _ => true
  | .string _ _ _ => true
  | .word w => ["True", "False", "None", "await"].contains w
  | .sign g => ["(", "[", "\x7b", "+", "-", "~", "..."].contains g
  | _ => false

/-- The token can start an expression. -/
def startsTest (t : Token) : Bool :=
  startsOperand t || t == .word "not" || t == .word "lambda"

/-- The token can start an expression or a starred one. -/
def startsStarred (t : Token) : Bool := startsTest t || t == .sign "*"

/-- The token can start a target. -/
def startsTarget (t : Token) : Bool := startsOperand t || t == .sign "*"

/-- The token starts a clause of a comprehension. -/
def startsClause (t : Token) : Bool := t == .word "for" || t == .word "async"

section

variable (check : List Char → Except Fault Unit) (self : Part → Rule Value)

/-! ### Parts of lists -/

/-- An expression, perhaps with a name. -/
def namedTest : Rule Value := do
  let start ← here
  match ← peek, ← peekSecond with
  | some (.name _), some (.sign ":=") =>
    let _ ← take
    let _ ← take
    let _ ← self .test
    return ⟨start, .named⟩
  | _, _ => self .test

/-- A starred expression, after which only operators of arithmetic can follow. -/
def starred : Rule Value := do
  let start ← here
  takeSign "*"
  let _ ← self .operand
  return ⟨start, .starred⟩

/-- An expression that may be starred. -/
def starredTest : Rule Value := do
  if ← nextIs "*" then starred self else self .test

/-- An expression that may be starred or named. -/
def starredNamedTest : Rule Value := do
  if ← nextIs "*" then starred self else namedTest self

/-- Expressions divided by commas, each perhaps starred. -/
def testList : Rule Unit := do
  let _ ← items startsStarred (starredTest self)

/-- A target of a loop. -/
def targetItem : Rule Value := do
  if ← nextIs "*" then starred self else self .operand

/-- Targets divided by commas. -/
def targetList : Rule Unit := do
  let _ ← items startsTarget (targetItem self)

/-- A `yield` expression. -/
def yieldExpression : Rule Value := do
  let start ← here
  takeWord "yield"
  if ← takeWord? "from" then
    let _ ← self .test
  else if (← peek).any startsStarred then testList self
  return ⟨start, .plain⟩

/-! ### Operators -/

/-- The operators of arithmetic and of bits. -/
def operandSigns : List String := ["|", "^", "&", "<<", ">>", "+", "-", "*", "/", "//", "%", "@"]

/-- The signs of comparison. -/
def comparisonSigns : List String := ["==", "!=", "<", "<=", ">", ">="]

/-- Takes a comparison operator if one comes next. -/
def takeComparison? : Rule Bool := do
  match ← peek with
  | some (.sign g) => if comparisonSigns.contains g then takeSign? g else return false
  | some (.word "in") => takeWord? "in"
  | some (.word "not") =>
    takeWord "not"
    takeWord "in"
    return true
  | some (.word "is") =>
    takeWord "is"
    let _ ← takeWord? "not"
    return true
  | _ => return false

/-- Takes an operator of arithmetic or of bits if one comes next. -/
def takeOperator? : Rule Bool := do
  match ← peek with
  | some (.sign g) => if operandSigns.contains g then takeSign? g else return false
  | _ => return false

/-- Takes `and` or `or` if one of them comes next. -/
def takeConnective? : Rule Bool := do
  if ← takeWord? "and" then return true else takeWord? "or"

/-! ### Comprehensions -/

/-- Any number of `not`. -/
def negations : Rule Unit :=
  iterate (fun () => do
    if ← takeWord? "not" then return .inl () else return .inr ()) ()

/-- Comparisons joined by `and` and `or`. -/
def disjunction : Rule Value := do
  let start ← here
  let bare := (← peek).any startsOperand
  negations
  let first ← self .operand
  iterate (fun (v : Value) => do
    if ← takeComparison? then
      let _ ← self .operand
      return .inl ⟨start, .plain⟩
    else if ← takeConnective? then
      negations
      let _ ← self .operand
      return .inl ⟨start, .plain⟩
    else return .inr v) (if bare then first else ⟨start, .plain⟩)

/-- One clause of a comprehension with its conditions. -/
def forClause : Rule Unit := do
  let _ ← takeWord? "async"
  takeWord "for"
  targetList self
  takeWord "in"
  let _ ← disjunction self
  iterate (fun () => do
    if ← takeWord? "if" then
      let _ ← disjunction self
      return .inl ()
    else return .inr ()) ()

/-- The clauses of a comprehension. -/
def forClauses : Rule Unit := do
  forClause self
  iterate (fun () => do
    if (← peek).any startsClause then
      forClause self
      return .inl ()
    else return .inr ()) ()

/-! ### Atoms -/

/-- A run of strings. -/
def strings : Rule Value := do
  let start ← here
  let run ← iterate (fun (acc : List Spanned) => do
    match ← peek with
    | some (.string _ _ _) => return .inl ((← take) :: acc)
    | _ => return .inr acc.reverse) []
  keepFault (checkStrings check run)
  return ⟨start, .plain⟩

/-- What stands between parentheses, after the first of them. -/
def parenthesized (start : Nat) : Rule Value := do
  if ← takeSign? ")" then return ⟨start, .plain⟩
  else if (← peek) == some (.word "yield") then
    let v ← yieldExpression self
    takeSign ")"
    return v
  else if ← takeSign? "**" then
    let _ ← self .operand
    takeSign ")"
    keep ⟨.doubleStarredExpression, start⟩
    return ⟨start, .plain⟩
  else
    let first ← starredNamedTest self
    if first.form != .starred && (← peek).any startsClause then
      forClauses self
      takeSign ")"
      return ⟨start, .plain⟩
    else
      let several ← moreItems startsStarred (starredNamedTest self)
      takeSign ")"
      if several then return ⟨start, .plain⟩
      else
        if first.form == .starred then keep ⟨.starredExpression, first.start⟩
        return ⟨first.start, .plain⟩

/-- What stands between square brackets, after the first of them. -/
def listDisplay (start : Nat) : Rule Value := do
  if ← takeSign? "]" then return ⟨start, .plain⟩
  else
    let _ ← starredNamedTest self
    if (← peek).any startsClause then forClauses self
    else
      let _ ← moreItems startsStarred (starredNamedTest self)
    takeSign "]"
    return ⟨start, .plain⟩

/-- An entry of a dictionary. -/
def dictionaryEntry : Rule Unit := do
  if ← takeSign? "**" then
    let _ ← self .operand
  else
    let _ ← self .test
    takeSign ":"
    let _ ← self .test

/-- The token can start an entry of a dictionary. -/
def startsEntry (t : Token) : Bool := startsTest t || t == .sign "**"

/-- More items after the first one, up to a closing brace. -/
def moreInBraces {α : Type} (starts : Token → Bool) (item : Rule α) : Rule Unit := do
  let _ ← moreItems starts item
  takeSign "\x7d"

/-- What stands between braces, after the first of them. -/
def braced (start : Nat) : Rule Value := do
  if ← takeSign? "\x7d" then return ⟨start, .plain⟩
  else if ← nextIs "**" then
    dictionaryEntry self
    moreInBraces startsEntry (dictionaryEntry self)
    return ⟨start, .plain⟩
  else
    let first ← starredNamedTest self
    if first.form == .plain && (← nextIs ":") then
      takeSign ":"
      let _ ← self .test
      if (← peek).any startsClause then
        forClauses self
        takeSign "\x7d"
      else moreInBraces startsEntry (dictionaryEntry self)
    else if first.form != .starred && (← peek).any startsClause then
      forClauses self
      takeSign "\x7d"
    else moreInBraces startsStarred (starredNamedTest self)
    return ⟨start, .plain⟩

/-- An atom. -/
def atom : Rule Value := do
  let start ← here
  match ← peek with
  | some (.string _ _ _) => strings check
  | some (.sign "(") =>
    let _ ← take
    parenthesized self start
  | some (.sign "[") =>
    let _ ← take
    listDisplay self start
  | some (.sign "\x7b") =>
    let _ ← take
    braced self start
  | some (.sign "...") =>
    let _ ← take
    return ⟨start, .plain⟩
  | some (.word w) =>
    if ["True", "False", "None"].contains w then
      let _ ← take
      return ⟨start, .plain⟩
    else refuse
  | some t =>
    if startsOperand t && !(t matches .sign _) then
      let _ ← take
      return ⟨start, .plain⟩
    else refuse
  | none => refuse

/-! ### Calls and subscripts -/

/-- An argument of a call. -/
def argument : Rule Argument := do
  let start ← here
  match ← peek, ← peekSecond with
  | some (.name n), some (.sign "=") =>
    let _ ← take
    let _ ← take
    let _ ← self .test
    return .keyword start n
  | some (.sign "*"), _ =>
    let _ ← take
    let _ ← self .test
    return .unpacked start
  | some (.sign "**"), _ =>
    let _ ← take
    let _ ← self .test
    return .unpackedKeywords
  | _, _ =>
    let v ← namedTest self
    if (← peek).any startsClause then
      forClauses self
      return .positional start
    else return .positional v.start

/-- The arguments of a call after the opening parenthesis, with the closing one. -/
def arguments : Rule Unit := do
  let all ← iterate (fun (acc : List Argument) => do
    if ← nextIs ")" then return .inr acc.reverse
    else
      let a ← argument self
      if ← takeSign? "," then return .inl (a :: acc)
      else if ← nextIs ")" then return .inr (a :: acc).reverse
      else refuse) []
  keepFault (checkArguments all)
  takeSign ")"

/-- An expression, if one comes next. -/
def optionalTest : Rule Unit := do
  if (← peek).any startsTest then
    let _ ← self .test

/-- The rest of a slice from its first colon on. -/
def sliceTail : Rule Unit := do
  takeSign ":"
  optionalTest self
  if ← takeSign? ":" then optionalTest self

/-- An item of a subscript. -/
def subscriptItem : Rule Unit := do
  if ← nextIs ":" then sliceTail self
  else
    let v ← starredNamedTest self
    if v.form == .plain && (← nextIs ":") then sliceTail self

/-- The token can start an item of a subscript. -/
def startsSubscript (t : Token) : Bool := startsStarred t || t == .sign ":"

/-- Calls, subscripts and attributes after an atom. -/
def trailers (start : Nat) (v : Value) : Rule Value :=
  iterate (fun (v : Value) => do
    if ← takeSign? "(" then
      arguments self
      return .inl ⟨start, .plain⟩
    else if ← takeSign? "[" then
      let _ ← items startsSubscript (subscriptItem self)
      takeSign "]"
      return .inl ⟨start, .plain⟩
    else if ← takeSign? "." then
      let _ ← takeName
      return .inl ⟨start, .plain⟩
    else return .inr v) v

/-! ### Operands -/

/-- An atom with what follows it, perhaps awaited and raised to a power. -/
def power : Rule Value := do
  let start ← here
  let awaited ← takeWord? "await"
  let first ← here
  let v ← trailers self first (← atom check self)
  if ← takeSign? "**" then
    let _ ← self .factor
    return ⟨start, .plain⟩
  else return if awaited then ⟨start, .plain⟩ else v

/-- A power, with a sign or without one. -/
def factor : Rule Value := do
  let start ← here
  match ← peek with
  | some (.sign g) =>
    if ["+", "-", "~"].contains g then
      let _ ← take
      let _ ← self .factor
      return ⟨start, .plain⟩
    else power check self
  | _ => power check self

/-- Powers joined by operators of arithmetic and of bits. -/
def operand : Rule Value := do
  let start ← here
  let first ← factor check self
  iterate (fun (v : Value) => do
    if ← takeOperator? then
      let _ ← factor check self
      return .inl ⟨start, .plain⟩
    else return .inr v) first

end

end Strict

end PythonAudit
