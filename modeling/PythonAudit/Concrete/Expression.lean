import PythonAudit.Concrete.Goal

/-!
# Expressions

One level of the expression grammar, as functions of a parser `self` for the goals below it.
-/

namespace PythonAudit

namespace Concrete

open Syntax Concrete.Parser

section

variable (self : Goal → Parser ParseTree)

/-! ### Lists of expressions -/

/-- A whole expression where an operand has to come. -/
def operandExpression (follow : Follow) : Parser ParseTree :=
  self (.expression Level.body operand follow)

/-- Expressions divided by commas, and whether a comma ends them. -/
def items (lead : Wanted) (follow : Follow) : Parser (List ParseTree × Bool) := do
  let first ← self (.expression Level.body lead follow)
  iterate (fun (acc : List ParseTree) => do
    match ← takeOperator? follow.wanted "," with
    | none => return .inr (acc.reverse, false)
    | some _ =>
      let more : Wanted := { follow.wanted with string := true }
      if (← ahead more).startsOperand then
        return .inl ((← self (.expression Level.body more follow)) :: acc)
      else return .inr (acc.reverse, true)) [first]

/-- One expression, or a list of them when there is a comma. -/
def expressions (lead : Wanted) (follow : Follow) : Parser ParseTree := do
  let start := (← ahead lead).point
  match ← items self lead follow with
  | ([e], false) => return e
  | (es, _) => nodeFrom .expressionList start es

/-- A `yield` whose first word comes next. -/
def yieldExpression (lead : Wanted) (follow : Follow) : Parser ParseTree := do
  let word ← takeKeyword lead "yield"
  let more : Wanted := { follow.wanted with string := true }
  let a ← ahead more
  if a.isWord "from" then
    let _ ← takeWord a
    let e ← operandExpression self follow
    nodeFrom .yieldExpression word.extent.start [e]
  else if a.startsOperand then
    let e ← expressions self more follow
    nodeFrom .yieldExpression word.extent.start [e]
  else nodeFrom .yieldExpression word.extent.start []

/-- A `yield` or a list of expressions. -/
def yieldOrExpressions (lead : Wanted) (follow : Follow) : Parser ParseTree := do
  if (← ahead lead).isWord "yield" then yieldExpression self lead follow
  else expressions self lead follow

/-! ### Strings -/

/-- The format after the colon of an interpolation. -/
def formatSpecifier : Parser ParseTree := do
  let colon ← takeColon { close := true }
  iterate (fun (acc : List ParseTree) => do
    let s ← get
    let n := (s.cursor.rest.takeWhile fun c => c != '{' && c != '}' && c != '\n').length
    if 0 < n then
      set { s with cursor := s.cursor.skip n }
      return .inl acc
    else
      let a ← ahead { close := true }
      if a.startsWith "\x7b" then
        set a.state
        return .inl ((← self (.interpolation .formatExpression)) :: acc)
      else if a.startsWith "\x7d" then
        return .inr (← nodeFrom .formatSpecifier colon.extent.start acc.reverse)
      else if a.chars.isEmpty then failAt a
      else
        set a.state
        return .inl acc) []

/-- An interpolation, from its opening brace to its closing one. -/
def interpolation (kind : Kind) : Parser ParseTree := do
  let a ← ahead {}
  let brace ← if a.startsWith "\x7b" then take a 1 else failAt a
  let e ← yieldOrExpressions self operand inBrackets
  let _ ← takeOperator? inBrackets.wanted "="
  let a ← ahead inBrackets.wanted
  let conversion ←
    match a.chars with
    | '!' :: c :: _ =>
      if c.isLower then pure [((← take a 2).leaf .typeConversion).withField .typeConversion]
      else failAt a
    | _ => pure []
  let specifier ←
    if (← ahead inBrackets.wanted).startsWith ":" then
      pure [(← formatSpecifier self).withField .formatSpecifier]
    else pure []
  let _ ← takeOperator inBrackets.wanted "\x7d"
  nodeFrom kind brace.extent.start (e.withField .expression :: conversion ++ specifier)

/-- The stretch of content between a place and the present one, unless it is empty. -/
def contentFrom (start : Cursor) : Parser (List ParseTree) := do
  let k := (← get).cursor
  let n := k.index - start.index
  if n = 0 then return []
  else
    return [.node { kind := .stringContent, extent := ⟨start.point, k.point⟩,
                    text := String.ofList (start.rest.take n) } []]

/-- A string whose opening comes next. -/
def stringLiteral (a : Ahead) (q : Quote) (length : Nat) : Parser ParseTree := do
  let opening ← take a length
  modify fun s => { s with quotes := q :: s.quotes, interpolated := q.format }
  let first := opening.leaf .stringStart
  iterate (fun ((acc, start) : List ParseTree × Cursor) => do
    let s ← get
    match q.piece s.cursor.rest with
    | none => throw ⟨s.cursor, s.trail⟩
    | some (.content n) =>
      set { s with cursor := s.cursor.skip n }
      return .inl (acc, start)
    | some .brace =>
      let content ← contentFrom start
      let hole ← self (.interpolation .interpolation)
      return .inl (hole :: content ++ acc, (← get).cursor)
    | some (.finish n) =>
      let content ← contentFrom start
      let closing ← take ⟨.text, s⟩ n
      modify fun s => { s with quotes := s.quotes.tail, interpolated := false }
      let all := (closing.leaf .stringEnd :: content ++ acc).reverse
      return .inr (← nodeFrom .string opening.extent.start all)) ([first], (← get).cursor)

/-- A string, or several strings in a row. -/
def strings (a : Ahead) (q : Quote) (length : Nat) (follow : Follow) : Parser ParseTree := do
  let first ← stringLiteral self a q length
  iterate (fun (acc : List ParseTree) => do
    let b ← ahead { follow.wanted with string := true }
    match b.sign with
    | .quote q n => return .inl ((← stringLiteral self b q n) :: acc)
    | _ =>
      match acc with
      | [s] => return .inr s
      | ss => return .inr (← nodeFrom .concatenatedString first.extent.start ss.reverse)) [first]

/-! ### Comprehensions -/

/-- The next word starts a clause of a comprehension. -/
def Ahead.startsClause (a : Ahead) : Bool := a.isWord "for" || a.isWord "async"

/-- A target of an assignment or loop. -/
def target (lead : Wanted) (follow : Follow) : Parser ParseTree := do
  let a ← ahead lead
  let e ← self (.primary Level.trailer lead follow)
  match toTarget e with
  | some t => return t
  | none => failAt a

/-- The target of a loop, up to the word `in`. -/
def loopTarget : Parser ParseTree := do
  let start := (← ahead {}).point
  let first ← target self {} {}
  iterate (fun (acc : List ParseTree) => do
    match ← takeOperator? {} "," with
    | none =>
      match acc with
      | [t] => return .inr t
      | ts => return .inr (← nodeFrom .patternList start ts.reverse)
    | some _ =>
      let a ← ahead {}
      if a.startsOperand && !a.isWord "in" then return .inl ((← target self {} {}) :: acc)
      else return .inr (← nodeFrom .patternList start acc.reverse)) [first]

/-- The iterables of a clause, divided by commas. -/
def iterables : Parser (List ParseTree) := do
  let first ← self (.expression Level.clause operand inBrackets)
  iterate (fun (acc : List ParseTree) => do
    match ← takeOperator? inBrackets.wanted "," with
    | none => return .inr acc.reverse
    | some _ =>
      let a ← ahead operandOrClose
      if a.startsOperand && !a.startsClause && !a.isWord "if" then
        return .inl ((← self (.expression Level.clause operandOrClose inBrackets)) :: acc)
      else return .inr acc.reverse) [first]

/-- A `for` clause. -/
def forInClause : Parser ParseTree := do
  let a ← ahead inBrackets.wanted
  let start := a.point
  let _ ← takeKeyword? inBrackets.wanted "async"
  let _ ← takeKeyword inBrackets.wanted "for"
  let left ← loopTarget self
  let _ ← takeKeyword {} "in"
  let right ← iterables self
  nodeFrom .forInClause start (left.withField .left :: right.map (·.withField .right))

/-- The clauses of a comprehension. -/
def clauses : Parser (List ParseTree) := do
  let first ← forInClause self
  iterate (fun (acc : List ParseTree) => do
    let a ← ahead inBrackets.wanted
    if a.startsClause then return .inl ((← forInClause self) :: acc)
    else if a.isWord "if" then
      let word ← takeWord a
      let e ← self (.expression Level.clause operand inBrackets)
      return .inl ((← nodeFrom .ifClause word.extent.start [e]) :: acc)
    else return .inr acc.reverse) [first]

/-! ### Brackets -/

/-- An element of a bracketed list: an expression, a splat or a `yield`. -/
def element (lead : Wanted) : Parser ParseTree := do
  let a ← ahead lead
  if a.operator == "*" then
    let star ← take a 1
    let e ← operandExpression self inBrackets
    nodeFrom .listSplat star.extent.start [e]
  else if a.isWord "yield" then yieldExpression self lead inBrackets
  else self (.expression Level.body lead inBrackets)

/-- The elements after a first one, up to the closing bracket. -/
def moreElements (closer : String) (first : ParseTree) : Parser (List ParseTree) :=
  iterate (fun (acc : List ParseTree) => do
    match ← takeOperator? inBrackets.wanted "," with
    | none =>
      let _ ← takeOperator inBrackets.wanted closer
      return .inr acc.reverse
    | some _ =>
      let a ← ahead operandOrClose
      if a.operator == closer then
        let _ ← take a closer.length
        return .inr acc.reverse
      else return .inl ((← element self operandOrClose) :: acc)) [first]

/-- The first element of a bracketed list, which may turn out to be the body of a comprehension;
then the clauses are read too. -/
def bodyOrElement (lead : Wanted) : Parser (ParseTree × Option (List ParseTree)) := do
  let before ← get
  let a ← ahead lead
  let e ← element self lead
  if (← ahead inBrackets.wanted).startsClause then
    if a.operator == "*" then
      set before
      let e ← self (.expression Level.body lead inBrackets)
      return (e, some (← clauses self))
    else return (e, some (← clauses self))
  else return (e, none)

/-- A tuple, a parenthesised expression or a generator. -/
def parenthesized (a : Ahead) : Parser ParseTree := do
  let bracket ← take a 1
  let start := bracket.extent.start
  match ← takeOperator? operandOrClose ")" with
  | some _ => nodeFrom .tuple start []
  | none =>
    match ← bodyOrElement self operandOrClose with
    | (e, some cs) =>
      let _ ← takeOperator inBrackets.wanted ")"
      nodeFrom .generatorExpression start (e.withField .body :: cs)
    | (e, none) =>
      match ← takeOperator? inBrackets.wanted ")" with
      | some _ => nodeFrom .parenthesizedExpression start [e]
      | none =>
        if (← ahead inBrackets.wanted).operator == "," then
          nodeFrom .tuple start (← moreElements self ")" e)
        else failAt (← ahead inBrackets.wanted)

/-- A list or a list comprehension. -/
def listDisplay (a : Ahead) : Parser ParseTree := do
  let bracket ← take a 1
  let start := bracket.extent.start
  match ← takeOperator? operandOrClose "]" with
  | some _ => nodeFrom .list start []
  | none =>
    match ← bodyOrElement self operandOrClose with
    | (e, some cs) =>
      let _ ← takeOperator inBrackets.wanted "]"
      nodeFrom .listComprehension start (e.withField .body :: cs)
    | (e, none) => nodeFrom .list start (← moreElements self "]" e)

/-- The rest of a key and value after the key. -/
def pairAfter (key : ParseTree) : Parser ParseTree := do
  let _ ← takeColon inBrackets.wanted
  let value ← operandExpression self inBrackets
  nodeFrom .pair key.extent.start [key.withField .key, value.withField .value]

/-- An entry of a dictionary. -/
def entry (lead : Wanted) : Parser ParseTree := do
  let a ← ahead lead
  if a.operator == "**" then
    let stars ← take a 2
    let e ← operandExpression self inBrackets
    nodeFrom .dictionarySplat stars.extent.start [e]
  else pairAfter self (← self (.expression Level.body lead inBrackets))

/-- The entries after a first one, up to the closing brace. -/
def moreEntries (first : List ParseTree) : Parser (List ParseTree) :=
  iterate (fun (acc : List ParseTree) => do
    match ← takeOperator? inBrackets.wanted "," with
    | none =>
      let _ ← takeOperator inBrackets.wanted "\x7d"
      return .inr acc.reverse
    | some _ =>
      let a ← ahead operandOrClose
      if a.operator == "\x7d" then
        let _ ← take a 1
        return .inr acc.reverse
      else return .inl ((← entry self operandOrClose) :: acc)) first

/-- A dictionary, a set or a comprehension of one of them. -/
def braced (a : Ahead) : Parser ParseTree := do
  let brace ← take a 1
  let start := brace.extent.start
  let b ← ahead operandOrClose
  if b.operator == "\x7d" then
    let _ ← take b 1
    nodeFrom .dictionary start []
  else if b.operator == "," then
    let _ ← take b 1
    let _ ← takeOperator inBrackets.wanted "\x7d"
    nodeFrom .dictionary start []
  else if b.operator == "**" then
    let first ← entry self operandOrClose
    nodeFrom .dictionary start (← moreEntries self [first])
  else
    match ← bodyOrElement self operandOrClose with
    | (e, some cs) =>
      let _ ← takeOperator inBrackets.wanted "\x7d"
      nodeFrom .setComprehension start (e.withField .body :: cs)
    | (e, none) =>
      if (← ahead inBrackets.wanted).startsWith ":" && b.operator != "*" && !b.isWord "yield" then
        let first ← pairAfter self e
        if (← ahead inBrackets.wanted).startsClause then
          let cs ← clauses self
          let _ ← takeOperator inBrackets.wanted "\x7d"
          nodeFrom .dictionaryComprehension start (first.withField .body :: cs)
        else nodeFrom .dictionary start (← moreEntries self [first])
      else nodeFrom .set start (← moreElements self "\x7d" e)

/-! ### Calls and subscripts -/

/-- Words that are never names where an operand has to come. -/
def reservedOperands : List String := ["True", "False", "None", "not", "lambda"]

/-- The next word can name something and is followed by the given operator. -/
def namedBy (a : Ahead) (follow : Follow) (o : String) : Parser Bool := do
  match a.word? with
  | none => return false
  | some w =>
    if reservedOperands.contains w then return false
    else
      let before ← get
      let _ ← takeWord a
      let b ← ahead follow.wanted
      set before
      return if o == ":=" then b.startsWith ":=" else b.operator == o

/-- An argument of a call. -/
def argument (lead : Wanted) : Parser ParseTree := do
  let a ← ahead lead
  if a.operator == "*" then
    let star ← take a 1
    let e ← operandExpression self inBrackets
    nodeFrom .listSplat star.extent.start [e]
  else if a.operator == "**" then
    let stars ← take a 2
    let e ← operandExpression self inBrackets
    nodeFrom .dictionarySplat stars.extent.start [e]
  else if ← namedBy a inBrackets "=" then
    let name ← takeWord a
    let _ ← takeOperator inBrackets.wanted "="
    let value ← operandExpression self inBrackets
    nodeFrom .keywordArgument name.extent.start
      [(name.leaf .identifier).withField .name, value.withField .value]
  else self (.expression Level.body lead inBrackets)

/-- The arguments after a first one, up to the closing parenthesis. -/
def moreArguments (first : List ParseTree) : Parser (List ParseTree) :=
  iterate (fun (acc : List ParseTree) => do
    match ← takeOperator? inBrackets.wanted "," with
    | none =>
      let _ ← takeOperator inBrackets.wanted ")"
      return .inr acc.reverse
    | some _ =>
      let a ← ahead operandOrClose
      if a.operator == ")" then
        let _ ← take a 1
        return .inr acc.reverse
      else return .inl ((← argument self operandOrClose) :: acc)) first

/-- The arguments of a call: a list of arguments or a single generator. -/
def arguments (a : Ahead) : Parser ParseTree := do
  let bracket ← take a 1
  let start := bracket.extent.start
  let b ← ahead operandOrClose
  if b.operator == ")" then
    let _ ← take b 1
    nodeFrom .argumentList start []
  else if b.operator == "," then
    let _ ← take b 1
    let _ ← takeOperator inBrackets.wanted ")"
    nodeFrom .argumentList start []
  else
    let before ← get
    let first ← argument self operandOrClose
    if (← ahead inBrackets.wanted).startsClause && first.kind != .keywordArgument then
      set before
      let body ← self (.expression Level.body operandOrClose inBrackets)
      let cs ← clauses self
      let _ ← takeOperator inBrackets.wanted ")"
      nodeFrom .generatorExpression start (body.withField .body :: cs)
    else nodeFrom .argumentList start (← moreArguments self [first])

/-- The part of a slice after a colon. -/
def sliceBound : Parser (List ParseTree) := do
  let a ← ahead operandOrClose
  if a.startsOperand then return [← self (.expression Level.body operandOrClose inBrackets)]
  else return []

/-- An index or a slice. -/
def subscriptItem (lead : Wanted) : Parser ParseTree := do
  let a ← ahead lead
  let lower ←
    if a.startsWith ":" then pure []
    else pure [← self (.expression Level.body lead inBrackets)]
  if (← ahead inBrackets.wanted).startsWith ":" then
    let _ ← takeColon inBrackets.wanted
    let upper ← sliceBound self
    if (← ahead inBrackets.wanted).startsWith ":" then
      let _ ← takeColon inBrackets.wanted
      let step ← sliceBound self
      nodeFrom .slice a.point (lower ++ upper ++ step)
    else nodeFrom .slice a.point (lower ++ upper)
  else
    match lower with
    | [e] => return e
    | _ => failAt a

/-- The items between the brackets of a subscript. -/
def subscriptItems (a : Ahead) : Parser (List ParseTree) := do
  let _ ← take a 1
  let first ← subscriptItem self operand
  iterate (fun (acc : List ParseTree) => do
    match ← takeOperator? inBrackets.wanted "," with
    | none =>
      let _ ← takeOperator inBrackets.wanted "]"
      return .inr acc.reverse
    | some _ =>
      let b ← ahead operandOrClose
      if b.operator == "]" then
        let _ ← take b 1
        return .inr acc.reverse
      else return .inl ((← subscriptItem self operandOrClose) :: acc)) [first]

/-- An attribute, call or subscript of what was read, if one follows. -/
def trailer? (follow : Follow) (e : ParseTree) : Parser (Option ParseTree) := do
  let a ← ahead follow.wanted
  let start := e.extent.start
  if a.operator == "." then
    let _ ← take a 1
    let name ← takeWord (← ahead {})
    return some (← nodeFrom .attributeAccess start
      [e.withField .object, (name.leaf .identifier).withField .member])
  else if a.operator == "(" then
    let args ← arguments self a
    return some (← nodeFrom .call start [e.withField .function, args.withField .arguments])
  else if a.operator == "[" then
    let subs ← subscriptItems self a
    return some (← nodeFrom .subscript start
      (e.withField .value :: subs.map (·.withField .subscript)))
  else return none

/-- All attributes, calls and subscripts of what was read. -/
def trailers (follow : Follow) (e : ParseTree) : Parser ParseTree :=
  iterate (fun e => do
    match ← trailer? self follow e with
    | some e => return .inl e
    | none => return .inr e) e

/-! ### Primary expressions -/

/-- The word `await` is followed by its operand. -/
def awaitsOperand (follow : Follow) : Parser Bool := do
  let a ← ahead { follow.wanted with string := true }
  match a.word? with
  | some w =>
    return !(["if", "else", "for", "in", "is", "and", "or", "not", "as", "from"].contains w)
  | none => return a.startsOperand && !(a.sign == .newline)

/-- An operand without its trailers. -/
def atom (lead : Wanted) (follow : Follow) : Parser ParseTree := do
  let a ← ahead lead
  match a.sign with
  | .quote q n => strings self a q n follow
  | .text =>
    match a.word? with
    | some "True" => return (← takeWord a).leaf .trueLiteral
    | some "False" => return (← takeWord a).leaf .falseLiteral
    | some "None" => return (← takeWord a).leaf .noneLiteral
    | some _ => return (← takeWord a).leaf .identifier
    | none =>
      match numberAt a.chars with
      | some (isFloat, n) => return (← take a n).leaf (if isFloat then .float else .integer)
      | none =>
        if a.startsWith "..." then return (← take a 3).leaf .ellipsis
        else if a.operator == "(" then parenthesized self a
        else if a.operator == "[" then listDisplay self a
        else if a.operator == "\x7b" then braced self a
        else failAt a
  | _ => failAt a

/-- The longest chain of trailers that ends as a name, an attribute or a subscript, and the state
after it. -/
def splatOperand (follow : Follow) (first : ParseTree) : Parser ParseTree := do
  let fits (t : ParseTree) : Bool :=
    t.kind == .identifier || t.kind == .subscript || t.kind == .attributeAccess
  let begun ← get
  let best : Option (ParseTree × State) := if fits first then some (first, begun) else none
  iterate (fun ((e, best) : ParseTree × Option (ParseTree × State)) => do
    match ← trailer? self follow e with
    | some e =>
      let now ← get
      return .inl (e, if fits e then some (e, now) else best)
    | none =>
      match best with
      | some (t, s) =>
        set s
        return .inr t
      | none => failAt (← ahead follow.wanted)) (first, best)

/-- A splat where any operand may stand. -/
def splat (a : Ahead) (follow : Follow) : Parser ParseTree := do
  let star ← take a 1
  let first ← atom self operand follow
  let t ← splatOperand self follow first
  nodeFrom .listSplat star.extent.start [t]

/-- The binary operators that follow an operand, as far as they bind more tightly than the floor. -/
def binaryTail (floor : Nat) (follow : Follow) (e : ParseTree) : Parser ParseTree :=
  iterate (fun (e : ParseTree) => do
    let a ← ahead follow.wanted
    match binaryLevel a.operator with
    | none => return .inr e
    | some level =>
      if floor < level || (level == Level.power && floor == level) then
        let _ ← take a a.operator.length
        let right ← self (.primary level operand follow)
        return .inl (← nodeFrom .binaryOperator e.extent.start
          [e.withField .left, right.withField .right])
      else return .inr e) e

/-- Operands joined by binary operators. -/
def primary (floor : Nat) (lead : Wanted) (follow : Follow) : Parser ParseTree := do
  let a ← ahead lead
  let first ←
    if a.operator == "-" || a.operator == "+" || a.operator == "~" then do
      let sign ← take a 1
      let e ← self (.primary Level.sign operand follow)
      nodeFrom .unaryOperator sign.extent.start [e.withField .argument]
    else if a.operator == "*" then splat self a follow
    else if a.isWord "await" then do
      let word ← takeWord a
      if ← awaitsOperand follow then
        let e ← self (.primary Level.sign operand follow)
        nodeFrom .awaitExpression word.extent.start [e]
      else pure (word.leaf .identifier)
    else atom self lead follow
  let e ← trailers self follow first
  binaryTail self floor follow e

/-! ### Expressions -/

/-- The comparison operator that comes next, taken. -/
def comparison? (follow : Follow) : Parser Bool := do
  let a ← ahead follow.wanted
  if comparisonOperators.contains a.operator then
    let _ ← take a a.operator.length
    return true
  else if a.isWord "in" then
    let _ ← takeWord a
    return true
  else if a.isWord "not" then
    let _ ← takeWord a
    let _ ← takeKeyword {} "in"
    return true
  else if a.isWord "is" then
    let _ ← takeWord a
    let _ ← takeKeyword? {} "not"
    return true
  else return false

/-- Operands joined by comparison operators. -/
def comparisons (lead : Wanted) (follow : Follow) : Parser ParseTree := do
  let first ← self (.primary Level.body lead follow)
  iterate (fun (acc : List ParseTree) => do
    if ← comparison? follow then
      return .inl ((← self (.primary Level.body operand follow)) :: acc)
    else
      match acc with
      | [e] => return .inr e
      | es => return .inr (← nodeFrom .comparisonOperator first.extent.start es.reverse)) [first]

/-- The operators that follow an expression, as far as they bind more tightly than the floor. -/
def expressionTail (floor : Nat) (follow : Follow) (e : ParseTree) : Parser ParseTree :=
  iterate (fun (e : ParseTree) => do
    let a ← ahead follow.wanted
    let start := e.extent.start
    if a.isWord "and" && floor < Level.conjunction then
      let _ ← takeWord a
      let right ← self (.expression Level.conjunction operand follow)
      return .inl (← nodeFrom .booleanOperator start [e.withField .left, right.withField .right])
    else if a.isWord "or" && floor < Level.disjunction then
      let _ ← takeWord a
      let right ← self (.expression Level.disjunction operand follow)
      return .inl (← nodeFrom .booleanOperator start [e.withField .left, right.withField .right])
    else if a.isWord "if" && floor ≤ Level.conditional then
      let _ ← takeWord a
      let condition ← self (.expression Level.body operand {})
      let _ ← takeKeyword {} "else"
      let other ← self (.expression Level.conditional operand follow)
      return .inl (← nodeFrom .conditionalExpression start [e, condition, other])
    else if a.isWord "as" && floor < Level.clause then
      let _ ← takeWord a
      let name ← self (.expression Level.clause operand follow)
      let label : Label :=
        { kind := .asPatternTarget, field := some .aliasName, extent := name.extent }
      return .inl (← nodeFrom .asPattern start [e, .node label [name]])
    else return .inr e) e

end

end Concrete

end PythonAudit
