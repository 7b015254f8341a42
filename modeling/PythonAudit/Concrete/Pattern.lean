import PythonAudit.Concrete.Expression

/-!
# Patterns of `case` clauses
-/

namespace PythonAudit

namespace Concrete

open Syntax Concrete.Parser

section

variable (self : Goal → Parser ParseTree)

/-- Names divided by dots, the first of which comes next. -/
def dottedName (lead : Wanted) (follow : Follow) : Parser ParseTree := do
  let first ← takeWord (← ahead lead)
  let names ← iterate (fun (acc : List ParseTree) => do
    match ← takeOperator? follow.wanted "." with
    | none => return .inr acc.reverse
    | some _ => return .inl ((← takeWord (← ahead {})).leaf .identifier :: acc))
        [first.leaf .identifier]
  nodeFrom .dottedName first.extent.start names

/-- Patterns up to a closing bracket. -/
def patternsUpTo (closer : String) : Parser (List ParseTree) :=
  iterate (fun (acc : List ParseTree) => do
    let a ← ahead operandOrClose
    if a.operator == closer then
      let _ ← take a closer.length
      return .inr acc.reverse
    else
      let p ← self (.pattern operandOrClose)
      match ← takeOperator? inBrackets.wanted "," with
      | some _ => return .inl (p :: acc)
      | none =>
        let _ ← takeOperator inBrackets.wanted closer
        return .inr (p :: acc).reverse) []

/-- A number in a pattern. -/
def patternNumber (lead : Wanted) : Parser ParseTree := do
  let a ← ahead lead
  match numberAt a.chars with
  | some (isFloat, n) => return (← take a n).leaf (if isFloat then .float else .integer)
  | none => failAt a

/-- A number with an optional sign, or a sum of two. -/
def numberPattern (lead : Wanted) (follow : Follow) : Parser ParseTree := do
  let a ← ahead lead
  let minus ← takeOperator? lead "-"
  let first ← patternNumber (if minus.isSome then {} else lead)
  let b ← ahead follow.wanted
  if b.operator == "+" || b.operator == "-" then
    let _ ← take b 1
    let second ← patternNumber {}
    nodeFrom .complexPattern a.point [first, second]
  else return first

/-- A splat in a pattern. -/
def splatPattern (a : Ahead) : Parser ParseTree := do
  let star ← take a a.operator.length
  let name ← takeWord (← ahead {})
  nodeFrom .splatPattern star.extent.start
    (if name.text == "_" then [] else [name.leaf .identifier])

/-- The entries of a mapping pattern, up to the closing brace. -/
def mappingEntries (simple : Wanted → Follow → Parser (List ParseTree)) : Parser (List ParseTree) :=
  iterate (fun (acc : List ParseTree) => do
    let a ← ahead operandOrClose
    if a.operator == "\x7d" then
      let _ ← take a 1
      return .inr acc.reverse
    else
      let read ←
        if a.operator == "*" || a.operator == "**" then do pure [← splatPattern a]
        else do
          let key ← simple operandOrClose inBrackets
          let _ ← takeColon inBrackets.wanted
          let value ← self (.pattern operand)
          pure (value.withField .value :: key.map (·.withField .key))
      match ← takeOperator? inBrackets.wanted "," with
      | some _ => return .inl (read ++ acc)
      | none =>
        let _ ← takeOperator inBrackets.wanted "\x7d"
        return .inr (read ++ acc).reverse) []

/-- A pattern without alternatives; a wildcard leaves no node. -/
def closedPattern (simple : Wanted → Follow → Parser (List ParseTree)) (lead : Wanted)
    (follow : Follow) :
    Parser (List ParseTree) := do
  let a ← ahead lead
  match a.sign with
  | .quote q n => return [← strings self a q n follow]
  | _ =>
    match a.word? with
    | some "True" => return [(← takeWord a).leaf .trueLiteral]
    | some "False" => return [(← takeWord a).leaf .falseLiteral]
    | some "None" => return [(← takeWord a).leaf .noneLiteral]
    | some "_" =>
      let _ ← takeWord a
      return []
    | some _ =>
      let name ← dottedName lead follow
      match ← takeOperator? follow.wanted "(" with
      | none => return [name]
      | some _ =>
        let parts ← patternsUpTo self ")"
        return [← nodeFrom .classPattern a.point (name :: parts)]
    | none =>
      if a.operator == "*" || a.operator == "**" then return [← splatPattern a]
      else if a.operator == "(" then
        let _ ← take a 1
        let parts ← patternsUpTo self ")"
        return [← nodeFrom .tuplePattern a.point parts]
      else if a.operator == "[" then
        let _ ← take a 1
        let parts ← patternsUpTo self "]"
        return [← nodeFrom .listPattern a.point parts]
      else if a.operator == "\x7b" then
        let _ ← take a 1
        let parts ← mappingEntries self simple
        return [← nodeFrom .dictPattern a.point parts]
      else return [← numberPattern lead follow]

/-- A pattern without a name for it: alternatives divided by bars. The nesting of mappings in the
keys of mappings is bounded by `depth`. -/
def simplePattern : Nat → Wanted → Follow → Parser (List ParseTree)
  | 0, lead, _ => do failAt (← ahead lead)
  | depth + 1, lead, follow => do
    let a ← ahead lead
    let first ← closedPattern self (simplePattern depth) lead follow
    iterate (fun ((acc, alternatives) : List ParseTree × Bool) => do
      match ← takeOperator? follow.wanted "|" with
      | some _ =>
        let next ← closedPattern self (simplePattern depth) operand follow
        return .inl (acc ++ next, true)
      | none =>
        if alternatives then return .inr [← nodeFrom .unionPattern a.point acc]
        else return .inr acc) (first, false)

/-- A pattern of a `case` clause. -/
def casePattern (lead : Wanted) : Parser ParseTree := do
  let a ← ahead lead
  let follow := inBrackets
  let parts ←
    if ← namedBy a follow "=" then do
      let name ← takeWord a
      let _ ← takeOperator follow.wanted "="
      let value ← simplePattern self (← get).bound operand follow
      pure [← nodeFrom .keywordPattern a.point (name.leaf .identifier :: value)]
    else simplePattern self (← get).bound lead follow
  let first ← nodeFrom .casePattern a.point parts
  iterate (fun (p : ParseTree) => do
    match ← takeKeyword? follow.wanted "as" with
    | none => return .inr p
    | some _ =>
      let name ← takeWord (← ahead {})
      let named ← nodeFrom .asPattern a.point [p, name.leaf .identifier]
      return .inl (← nodeFrom .casePattern a.point [named])) first

end

end Concrete

end PythonAudit
