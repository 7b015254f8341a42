import PythonAudit.Concrete.Quoted
import PythonAudit.Syntax.ParseTree

/-!
# Parsers of concrete syntax

`Parser` is a reader of tokens that either builds something or fails at a token. A failure keeps the
tokens read before it, and of two failed alternatives the one that came further counts.

The grammar is written as plain functions of a parser `rec` for its own recursive parts; `iterate`
repeats a step as long as there can be characters left, so no definition needs to recurse by itself.
-/

namespace PythonAudit

namespace Concrete

open Syntax

/-- Where no alternative of the grammar could go on, and the tokens read before. -/
structure Failure where
  place : Cursor
  trail : List Mark
deriving Inhabited

/-- The failure that came further. -/
def Failure.further (a b : Failure) : Failure :=
  if a.place.index < b.place.index then b else a

/-- A reader of tokens. -/
abbrev Parser := StateT State (Except Failure)

namespace Parser

/-- Fails at the token that comes next. -/
def failAt {α : Type} (a : Ahead) : Parser α :=
  throw ⟨a.state.cursor, a.state.trail⟩

/-- Tries one parser and then another one from the same place. -/
def orElse {α : Type} (p q : Parser α) : Parser α := fun s =>
  match p s with
  | .ok r => .ok r
  | .error e =>
    match q s with
    | .ok r => .ok r
    | .error e' => .error (e.further e')

/-- Repeats a step until it gives a result, at most as often as the text has characters. -/
def iterateWith {α β : Type} (step : α → Parser (α ⊕ β)) : Nat → α → Parser β
  | 0, _ => fun s => .error ⟨s.cursor, s.trail⟩
  | n + 1, a => do
    match ← step a with
    | .inl a => iterateWith step n a
    | .inr b => return b

/-- Repeats a step until it gives a result. -/
def iterate {α β : Type} (step : α → Parser (α ⊕ β)) (a : α) : Parser β := do
  iterateWith step (← get).bound a

end Parser

open Concrete.Parser

/-! ### Looking ahead -/

/-- Reads up to the next token without taking it. -/
def ahead (w : Wanted) : Parser Ahead := do
  return (← get).read w

namespace Ahead

/-- The characters that come next, when they are plain text. -/
def chars (a : Ahead) : List Char :=
  match a.sign with
  | .text => a.state.cursor.rest
  | _ => []

/-- The word that comes next. -/
def word? (a : Ahead) : Option String := wordAt a.chars

/-- The operator that comes next; empty when there is none. -/
def operator (a : Ahead) : String := operatorAt a.chars

/-- The next word is the given one. -/
def isWord (a : Ahead) (w : String) : Bool := a.word? == some w

/-- The text goes on with the given characters. -/
def startsWith (a : Ahead) (s : String) : Bool := s.toList.isPrefixOf a.chars

/-- The place of the next token. -/
def point (a : Ahead) : Point := a.state.cursor.point

end Ahead

/-! ### Taking tokens -/

/-- A token that was taken. -/
structure Token where
  extent : Extent
  text : String
deriving Inhabited

/-- Takes a number of characters as one token. -/
def take (a : Ahead) (n : Nat) : Parser Token := do
  let k := a.state.cursor
  let k' := k.skip n
  let text := String.ofList (k.rest.take n)
  set { a.state with cursor := k', trail := ⟨k, text⟩ :: a.state.trail }
  return ⟨⟨k.point, k'.point⟩, text⟩

/-- Takes the next word, whatever it is. -/
def takeWord (a : Ahead) : Parser Token :=
  match a.word? with
  | some w => take a w.length
  | none => failAt a

/-- Takes a given operator. -/
def takeOperator (w : Wanted) (o : String) : Parser Token := do
  let a ← ahead w
  if a.operator == o then take a o.length else failAt a

/-- Takes a colon, whatever follows it. -/
def takeColon (w : Wanted) : Parser Token := do
  let a ← ahead w
  if a.startsWith ":" then take a 1 else failAt a

/-- Takes a given word. -/
def takeKeyword (w : Wanted) (k : String) : Parser Token := do
  let a ← ahead w
  if a.isWord k then takeWord a else failAt a

/-- Takes a given operator if it comes next. -/
def takeOperator? (w : Wanted) (o : String) : Parser (Option Token) := do
  let a ← ahead w
  if a.operator == o then return some (← take a o.length) else return none

/-- Takes a given word if it comes next. -/
def takeKeyword? (w : Wanted) (k : String) : Parser (Option Token) := do
  let a ← ahead w
  if a.isWord k then return some (← takeWord a) else return none

/-! ### Building nodes -/

/-- The place after the last token. -/
def here : Parser Point := do
  return (← get).cursor.point

/-- A token as a node. -/
def Token.leaf (t : Token) (k : Kind) : ParseTree :=
  .node { kind := k, extent := t.extent, text := t.text } []

/-- A node that starts at a given place and ends with the last token. -/
def nodeFrom (k : Kind) (start : Point) (children : List ParseTree) : Parser ParseTree := do
  return .node { kind := k, extent := ⟨start, ← here⟩ } children

/-! ### What may follow -/

/-- What may stand after a complete expression: the end of the line, a closing bracket. -/
structure Follow where
  newline : Bool := false
  close : Bool := false
deriving DecidableEq, Repr, Inhabited

/-- The signs wanted after a complete expression. -/
def Follow.wanted (f : Follow) : Wanted := { newline := f.newline, close := f.close }

/-- The signs wanted where an operand has to come. -/
def operand : Wanted := { string := true }

/-- The signs wanted where an operand or a closing bracket has to come. -/
def operandOrClose : Wanted := { string := true, close := true }

/-- What follows an expression between brackets. -/
def inBrackets : Follow := { close := true }

/-- What follows an expression in the head of a compound statement. -/
def inHead : Follow := {}

/-- What follows an expression of a simple statement. -/
def inLine : Follow := { newline := true }

/-- The next token can start an expression. -/
def Ahead.startsOperand (a : Ahead) : Bool :=
  match a.sign with
  | .quote _ _ => true
  | .text =>
    a.word?.isSome || (numberAt a.chars).isSome || a.startsWith "..." ||
      ["(", "[", "\x7b", "-", "+", "~", "*"].contains a.operator
  | _ => false

end Concrete

end PythonAudit
