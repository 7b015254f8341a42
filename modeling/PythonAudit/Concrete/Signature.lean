import PythonAudit.Concrete.Expression

/-!
# Annotations and parameters

The types of annotations, type parameters, and the parameters of functions and lambdas. A name with
brackets is a generic type here and no subscript, so nothing but a member or a union can follow it.
-/

namespace PythonAudit

namespace Concrete

open Syntax Concrete.Parser

section

variable (self : Goal → Parser ParseTree)

/-! ### Annotations -/

/-- Wraps what an annotation says as a type. -/
def asType (t : ParseTree) : ParseTree :=
  .node { kind := .typeExpression, extent := t.extent } [t]

/-- The type parameters between square brackets. -/
def typeParameters (a : Ahead) : Parser ParseTree := do
  let bracket ← take a 1
  let first ← self (.typeHint operand inBrackets true)
  let all ← iterate (fun (acc : List ParseTree) => do
    match ← takeOperator? inBrackets.wanted "," with
    | none =>
      let _ ← takeOperator inBrackets.wanted "]"
      return .inr acc.reverse
    | some _ =>
      let b ← ahead operandOrClose
      if b.operator == "]" then
        let _ ← take b 1
        return .inr acc.reverse
      else return .inl ((← self (.typeHint operandOrClose inBrackets true)) :: acc)) [first]
  nodeFrom .typeParameter bracket.extent.start all

/-- Words that name no generic type. -/
def reservedTypes : List String := reservedOperands ++ ["print", "exec", "async", "await", "match"]

/-- A type without unions, members and constraints. -/
def simpleType (lead : Wanted) (follow : Follow) : Parser ParseTree := do
  let a ← ahead lead
  let before ← get
  if a.operator == "*" || a.operator == "**" then
    let star ← take a a.operator.length
    match (← ahead {}).word? with
    | some _ =>
      let name ← takeWord (← ahead {})
      let b ← ahead follow.wanted
      if (b.operator == "[" || b.operator == "(") && star.text == "*" then
        set before
        return asType (← self (.expression Level.body lead follow))
      else return asType (← nodeFrom .splatType star.extent.start [name.leaf .identifier])
    | none => failAt (← ahead {})
  else
    match a.word? with
    | some w =>
      if reservedTypes.contains w then return asType (← self (.expression Level.body lead follow))
      else
        let name ← takeWord a
        let b ← ahead follow.wanted
        if b.operator == "[" then
          let params ← typeParameters self b
          return asType (← nodeFrom .genericType name.extent.start [name.leaf .identifier, params])
        else
          set before
          return asType (← self (.expression Level.body lead follow))
    | none => return asType (← self (.expression Level.body lead follow))

/-- A type with the unions, members and constraints that follow it. -/
def typeHint (lead : Wanted) (follow : Follow) (constrained : Bool) : Parser ParseTree := do
  let first ← simpleType self lead follow
  iterate (fun (t : ParseTree) => do
    let a ← ahead follow.wanted
    let start := t.extent.start
    if a.operator == "." then
      let _ ← take a 1
      let name ← takeWord (← ahead {})
      return .inl (asType (← nodeFrom .memberType start [t, name.leaf .identifier]))
    else if a.operator == "|" then
      let _ ← take a 1
      let right ← simpleType self operand follow
      return .inl (asType (← nodeFrom .unionType start [t, right]))
    else if constrained && a.startsWith ":" then
      let _ ← take a 1
      let bound ← self (.typeHint operand follow true)
      return .inr (asType (← nodeFrom .constrainedType start [t, bound]))
    else return .inr t) first

/-! ### Parameters -/

/-- The name, attribute or subscript after the star of a parameter. -/
def starredName (star : Token) (kind : Kind) (follow : Follow) : Parser ParseTree := do
  let a ← ahead {}
  let e ← trailers self follow (← atom self {} follow)
  if e.kind == .identifier || e.kind == .subscript || e.kind == .attributeAccess then
    nodeFrom kind star.extent.start [e]
  else failAt a

/-- One parameter. Only the parameters of a function can be typed. -/
def parameter (typed : Bool) (lead : Wanted) (follow : Follow) : Parser ParseTree := do
  let a ← ahead lead
  let start := a.point
  if a.operator == "/" then return (← take a 1).leaf .positionalSeparator
  else
    let name ←
      if a.operator == "*" then do
        let star ← take a 1
        let b ← ahead follow.wanted
        if b.word?.isSome || b.operator == "(" || b.operator == "[" then
          starredName self star .listSplatPattern follow
        else pure (star.leaf .keywordSeparator)
      else if a.operator == "**" then do
        let stars ← take a 2
        starredName self stars .dictionarySplatPattern follow
      else if a.operator == "(" then target self lead follow
      else do pure ((← takeWord a).leaf .identifier)
    let plain := name.kind == .identifier
    let b ← ahead follow.wanted
    if name.kind == .keywordSeparator then return name
    else if typed && b.startsWith ":" && name.kind != .tuplePattern then
      let _ ← take b 1
      let type ← self (.typeHint operand follow true)
      match plain, ← takeOperator? follow.wanted "=" with
      | true, some _ =>
        let value ← operandExpression self follow
        nodeFrom .typedDefaultParameter start
          [name.withField .name, type.withField .typeAnnotated, value.withField .value]
      | _, some _ => failAt b
      | _, none => nodeFrom .typedParameter start [name, type.withField .typeAnnotated]
    else if b.operator == "=" && (plain || name.kind == .tuplePattern) then
      let _ ← take b 1
      let value ← operandExpression self follow
      nodeFrom .defaultParameter start [name.withField .name, value.withField .value]
    else if a.operator == "(" && name.kind != .tuplePattern then failAt a
    else return name

/-- Parameters divided by commas; a closing token may follow the last comma. -/
def parameterList (typed : Bool) (lead : Wanted) (follow : Follow) (closer : String) :
    Parser (List ParseTree) := do
  let first ← parameter self typed lead follow
  iterate (fun (acc : List ParseTree) => do
    match ← takeOperator? follow.wanted "," with
    | none => return .inr acc.reverse
    | some _ =>
      let a ← ahead { close := follow.close }
      if a.startsWith closer then return .inr acc.reverse
      else return .inl ((← parameter self typed { close := follow.close } follow) :: acc)) [first]

/-- The parameters of a function, in parentheses. -/
def parameters : Parser ParseTree := do
  let bracket ← takeOperator {} "("
  let a ← ahead { close := true }
  let all ←
    if a.operator == ")" then pure []
    else parameterList self true { close := true } inBrackets ")"
  let _ ← takeOperator { close := true } ")"
  nodeFrom .parameters bracket.extent.start all

/-- A lambda whose first word comes next. -/
def lambda (lead : Wanted) (follow : Follow) : Parser ParseTree := do
  let word ← takeKeyword lead "lambda"
  let a ← ahead {}
  let params ←
    if a.startsWith ":" then pure []
    else do
      let all ← parameterList self false {} {} ":"
      pure [(← nodeFrom .lambdaParameters a.point all).withField .parameters]
  let _ ← takeColon {}
  let body ← self (.expression Level.body operand follow)
  nodeFrom .lambdaExpression word.extent.start (params ++ [body.withField .body])

end

end Concrete

end PythonAudit
