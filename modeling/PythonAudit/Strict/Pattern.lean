import PythonAudit.Strict.Expression

/-!
# Patterns of `case` clauses
-/

namespace PythonAudit

namespace Strict

open Rule

/-- The token is a number. -/
def isNumber : Token → Bool
  | .integer _ => true
  | .float _ => true
  | .imaginary _ => true
  | _ => false

/-- The token can start a pattern. -/
def startsPattern : Token → Bool
  | .name _ => true
  | .string _ _ _ => true
  | .word w => ["True", "False", "None"].contains w
  | .sign g => ["(", "[", "\x7b", "-", "*"].contains g
  | t => isNumber t

/-- The token can start a key of a mapping pattern, or what follows the keys. -/
def startsKey : Token → Bool
  | .name _ => true
  | .string _ _ _ => true
  | .word w => ["True", "False", "None"].contains w
  | .sign g => g == "-" || g == "**"
  | t => isNumber t

/-- A number with or without a minus sign. -/
def signedNumber : Rule Unit := do
  let _ ← takeSign? "-"
  if (← peek).any isNumber then
    let _ ← take
  else refuse

/-- A number, or the sum or difference of two. -/
def numberPattern : Rule Unit := do
  signedNumber
  if (← takeSign? "+") then signedNumber
  else if (← takeSign? "-") then signedNumber

/-- Attributes after a name; the answer is their number. -/
def attributes : Rule Nat :=
  iterate (fun (n : Nat) => do
    if ← takeSign? "." then
      let _ ← takeName
      return .inl (n + 1)
    else return .inr n) 0

section

variable (check : List Char → Except Fault Unit) (self : Part → Rule Value)

/-- A key of a mapping pattern. -/
def mappingKey : Rule Unit := do
  match ← peek with
  | some (.string _ _ _) =>
    let _ ← strings check
  | some (.name _) =>
    let _ ← take
    if (← attributes) = 0 then refuse
  | some (.word _) =>
    let _ ← take
  | _ => numberPattern

/-- The entries of a mapping pattern up to its closing brace. -/
def mappingEntries : Rule Unit :=
  iterate (fun () => do
    if ← takeSign? "\x7d" then return .inr ()
    else if ← takeSign? "**" then
      let _ ← takeName
      let _ ← takeSign? ","
      takeSign "\x7d"
      return .inr ()
    else if (← peek).any startsKey then
      mappingKey check
      takeSign ":"
      let _ ← self .pattern
      if ← takeSign? "," then return .inl ()
      else
        takeSign "\x7d"
        return .inr ()
    else refuse) ()

/-- The arguments of a class pattern up to the closing parenthesis: patterns, then patterns with
names. -/
def classArguments : Rule Unit :=
  iterate (fun (named : Bool) => do
    if ← takeSign? ")" then return .inr ()
    else
      let byName := (← peekSecond) == some (.sign "=") && ((← peek).any fun t => t matches .name _)
      if byName then
        let _ ← take
        let _ ← take
      else if named then
        let _ ← takeName
        takeSign "="
      let _ ← self .pattern
      if ← takeSign? "," then return .inl (byName || named)
      else
        takeSign ")"
        return .inr ()) false

/-- A pattern without alternatives. -/
def closedPattern : Rule Unit := do
  match ← peek with
  | some (.string _ _ _) =>
    let _ ← strings check
  | some (.name _) =>
    let _ ← take
    let _ ← attributes
    if ← takeSign? "(" then classArguments self
  | some (.sign "*") =>
    let _ ← take
    let _ ← takeName
  | some (.sign "(") =>
    let _ ← take
    if (← peek).any startsPattern then
      let _ ← items startsPattern (self .pattern)
    takeSign ")"
  | some (.sign "[") =>
    let _ ← take
    if (← peek).any startsPattern then
      let _ ← items startsPattern (self .pattern)
    takeSign "]"
  | some (.sign "\x7b") =>
    let _ ← take
    mappingEntries check self
  | some (.word w) =>
    if ["True", "False", "None"].contains w then
      let _ ← take
    else refuse
  | _ => numberPattern

/-- A pattern: alternatives, perhaps bound to a name. -/
def casePattern : Rule Value := do
  let start ← here
  closedPattern check self
  iterate (fun () => do
    if ← takeSign? "|" then
      closedPattern check self
      return .inl ()
    else return .inr ()) ()
  if ← takeWord? "as" then
    let n ← takeName
    if n == "_" then keep ⟨.wildcardTarget, start⟩
  return ⟨start, .plain⟩

end

end Strict

end PythonAudit
