import PythonAudit.Strict.Pattern

/-!
# The recursive grammar

Lambdas and conditional expressions, which tie the rules for expressions together. `Part.parse`
nests the rules as deep as the tokens allow, and `checkExpression` reads the expression of a
replacement field.
-/

namespace PythonAudit

namespace Strict

open Rule

section

variable (self : Part → Rule Value)

/-! ### Parameters -/

/-- The type of a parameter, where `typed` admits one. -/
def parameterType (typed starred : Bool) : Rule Unit := do
  if typed then
    if ← takeSign? ":" then
      let _ ← if starred then starredTest self else self .test

/-- A parameter with its type and its default. -/
def parameter (typed : Bool) : Rule Parameter := do
  let start ← here
  let name ← takeName
  parameterType self typed false
  if ← takeSign? "=" then
    let _ ← self .test
    return ⟨start, name, true⟩
  else return ⟨start, name, false⟩

/-- A parameter after one or two stars. -/
def starParameter (typed starred : Bool) : Rule Parameter := do
  let start ← here
  let name ← takeName
  parameterType self typed starred
  return ⟨start, name, false⟩

/-- The next token is a name. -/
def nextIsName : Rule Bool := do
  return (← peek).any fun t => t matches .name _

/-- One item of a parameter list. -/
def parameterItem (typed : Bool) (s : Signature) : Rule Signature := do
  if (← nextIs "/") && s.positionalOnly.isEmpty && !s.positional.isEmpty && s.star.isNone then
    takeSign "/"
    return { s with positionalOnly := s.positional, positional := [] }
  else if (← nextIs "*") && s.star.isNone then
    let start ← here
    takeSign "*"
    let s := { s with star := some start }
    if ← nextIsName then return { s with rest := some (← starParameter self typed true) }
    else return s
  else if ← nextIs "**" then
    takeSign "**"
    return { s with keywords := some (← starParameter self typed false) }
  else
    let p ← parameter self typed
    if s.star.isSome then return { s with keywordOnly := s.keywordOnly ++ [p] }
    else return { s with positional := s.positional ++ [p] }

/-- A list of parameters up to a closing sign, which is not taken. -/
def parameterList (typed : Bool) (close : String) : Rule Signature := do
  let s ← iterate (fun (s : Signature) => do
    if ← nextIs close then return .inr s
    else if s.keywords.isSome then refuse
    else
      let s ← parameterItem self typed s
      if ← takeSign? "," then return .inl s
      else if ← nextIs close then return .inr s
      else refuse) {}
  keepFault s.checkOrder
  return s

/-! ### Whole expressions -/

/-- A lambda. -/
def lambda : Rule Value := do
  let start ← here
  takeWord "lambda"
  let s ← parameterList self false ":"
  takeSign ":"
  let _ ← self .test
  keepFault s.checkNames
  return ⟨start, .plain⟩

/-- An expression. -/
def test : Rule Value := do
  let start ← here
  if (← peek) == some (.word "lambda") then lambda self
  else
    let v ← disjunction self
    if ← takeWord? "if" then
      let _ ← disjunction self
      takeWord "else"
      let _ ← self .test
      return ⟨start, .plain⟩
    else return v

end

/-- One level of a part. -/
def Part.step (check : List Char → Except Fault Unit) (self : Part → Rule Value) : Part → Rule Value
  | .test => Strict.test self
  | .operand => Strict.operand check self
  | .factor => Strict.factor check self
  | .pattern => casePattern check self

/-- Reads a part to a bounded depth. -/
def Part.parseWith (check : List Char → Except Fault Unit) : Nat → Part → Rule Value
  | 0, _ => refuse
  | depth + 1, p => p.step check (Part.parseWith check depth)

/-- Reads a part. At one token at most three parts nest. -/
def Part.parse (check : List Char → Except Fault Unit) (p : Part) : Rule Value := do
  Part.parseWith check (3 * (← get).bound) p

/-! ### Expressions of replacement fields -/

/-- The expression of a field in parentheses, and the line ends after it. -/
def fieldExpression (check : List Char → Except Fault Unit) : Rule Unit := do
  testList (Part.parse check)
  iterate (fun () => do
    if ← takeToken? .newline then return .inl () else return .inr ()) ()
  let s ← get
  if s.rest.isEmpty && s.ending.isNone then return () else refuse

/-- The outcome of a rule: the fault to report, if any. -/
def Rule.outcome (r : Rule Unit) (s : State) : Except Located Unit :=
  match r s with
  | .error e => .error e.located
  | .ok ((), s) =>
    match s.pending with
    | some (_, l) => .error l
    | none => .ok ()

/-- Checks the expression of a replacement field; `depth` bounds how deep format strings nest in
it. -/
def checkExpression : Nat → List Char → Except Fault Unit
  | 0, _ => .error .nestedTooDeeply
  | depth + 1, text =>
    let stream := resolveSoft (lex ('(' :: (text ++ [')']))) false
    match (fieldExpression (checkExpression depth)).outcome (State.start stream) with
    | .error l => .error l.fault
    | .ok () => .ok ()

end Strict

end PythonAudit
