import PythonAudit.Strict.Lexer
import PythonAudit.Text.CharacterName

/-!
# What stands between quotes

A string is checked once the run of strings that it belongs to has ended: its escapes, the
characters of a byte string, and the replacement fields of a format string. The expression of a
field is handed to a checker that is given as an argument.

All offsets count the bytes of the body with every line end written as a line feed.
-/

namespace PythonAudit

namespace Strict

/-! ### Escapes -/

/-- Passes a number of hexadecimal digits that name a character. -/
def passHex (count : Nat) (p : Place) : Except Located Place :=
  let ds := p.rest.take count
  let code := digitsValue 16 ds
  if ds.length = count && ds.all (isDigitOf 16) && code < 0x110000 then .ok (p.skip count)
  else .error ⟨.unexpectedUnicode, p.offset⟩

/-- Passes the name of a character in braces. -/
def passName (p : Place) : Except Located Place :=
  if p.peek != some '\x7b' then .error ⟨.unexpectedString, p.offset⟩
  else
    let start := p.next
    let name := start.rest.takeWhile (· != '\x7d')
    let stop := start.skip name.length
    if stop.rest.isEmpty then .error ⟨.unexpectedString, stop.offset⟩
    else if 88 < (String.ofList name).utf8ByteSize then
      .error ⟨.unexpectedUnicode, stop.next.offset⟩
    else if Text.isCharacterName name then .ok stop.next
    else .error ⟨.unexpectedUnicode, start.offset⟩

/-- Passes an escape after its backslash. -/
def passEscape (kind : StringKind) (p : Place) : Except Located Place :=
  match p.peek with
  | none => .error ⟨.unexpectedString, p.offset⟩
  | some c =>
    let q := p.next
    if isDigitOf 8 c then .ok (q.skip ((q.rest.take 2).takeWhile (isDigitOf 8)).length)
    else if c = 'x' then passHex 2 q
    else if c = 'u' && !kind.bytes then passHex 4 q
    else if c = 'U' && !kind.bytes then passHex 8 q
    else if c = 'N' && !kind.bytes then passName q
    else if kind.bytes && 0x7f < c.toNat then .error ⟨.nonAsciiBytes, q.offset⟩
    else .ok q

/-- Checks the body of a string that is no format string. -/
def checkPlain (kind : StringKind) : Nat → Place → Except Located Unit
  | 0, _ => .ok ()
  | fuel + 1, p =>
    match p.peek with
    | none => .ok ()
    | some c =>
      if c = '\\' && !kind.raw then
        match passEscape kind p.next with
        | .error e => .error e
        | .ok q => checkPlain kind fuel q
      else if kind.bytes && 0x7f < c.toNat then .error ⟨.nonAsciiBytes, p.next.offset⟩
      else checkPlain kind fuel p.next

/-! ### Replacement fields -/

/-- A replacement field while it is read: the characters of its expression in reverse, the open
brackets, and, once an equals sign has ended the expression, the expression. -/
structure FieldState where
  chars : List Char := []
  opened : List Char := []
  shown : Option (List Char) := none
deriving Inhabited

/-- The expression of a field. -/
def FieldState.expression (f : FieldState) : List Char :=
  (f.shown.getD f.chars).reverse

/-- Nothing but blanks was read. -/
def FieldState.isBlank (f : FieldState) : Bool := f.chars.all Char.isWhitespace

/-- One more character of the expression. -/
def FieldState.add (f : FieldState) (c : Char) : FieldState := { f with chars := c :: f.chars }

/-- Closes the bracket that was opened last. -/
def FieldState.close (f : FieldState) (opening c : Char) (offset : Nat) :
    Except Located FieldState :=
  match f.opened with
  | [] => .error ⟨.unmatchedDelimiter c, offset⟩
  | o :: os =>
    if o = opening then .ok { (f.add c) with opened := os }
    else .error ⟨.mismatchedDelimiter o c, offset⟩

/-- Passes the rest of a string inside an expression. -/
def passInnerString (mark : Char) (p : Place) (f : FieldState) :
    Except Located (FieldState × Place) :=
  let inner := p.rest.takeWhile (· != mark)
  let q := p.skip inner.length
  if q.rest.isEmpty then .error ⟨.unterminatedString, q.offset⟩
  else .ok ({ f with chars := mark :: (inner.reverse ++ f.chars) }, q.next)

/-- Passes the letter of a conversion after its mark. -/
def passConversion (f : FieldState) (p : Place) : Except Located Place :=
  if f.isBlank then .error ⟨.emptyExpression, p.offset⟩
  else
    match p.peek with
    | none => .error ⟨.unclosedBrace, p.offset⟩
    | some c =>
      let q := p.next
      if c != 's' && c != 'a' && c != 'r' then .error ⟨.invalidConversion, q.offset⟩
      else if q.peek == some '\x7d' || q.peek == some ':' then .ok q
      else .error ⟨.unclosedBrace, q.offset⟩

/-- A mark that makes a comparison together with an equals sign. -/
def startsComparison (c : Char) (p : Place) : Bool :=
  (c == '!' || c == '=' || c == '>' || c == '<') && p.peek == some '='

section

variable (check : List Char → Except Fault Unit) (kind : StringKind)

/-- Ends a field whose expression started at a given offset. -/
def endField (start : Nat) (f : FieldState) (p : Place) : Except Located Place :=
  if f.isBlank then .error ⟨.emptyExpression, p.offset⟩
  else
    match check f.expression with
    | .error e => .error ⟨.inExpression e, start⟩
    | .ok () => .ok p

mutual

/-- Reads the text of a format string, or of a format inside a field, up to its end. -/
def passFormat (depth : Nat) : Nat → Place → Except Located Place
  | 0, p => .error ⟨.unclosedBrace, p.offset⟩
  | fuel + 1, p =>
    if 2 ≤ depth then .error ⟨.nestedTooDeeply, p.offset⟩
    else
      match p.peek with
      | none => .ok p
      | some '\x7b' =>
        let q := p.next
        if depth = 0 && q.peek == some '\x7b' then passFormat depth fuel q.next
        else if depth = 0 && q.rest.isEmpty then .error ⟨.unclosedBrace, q.offset⟩
        else
          match passField depth q.offset fuel q {} with
          | .error e => .error e
          | .ok r => passFormat depth fuel r
      | some '\x7d' =>
        if 0 < depth then .ok p
        else if p.next.peek == some '\x7d' then passFormat depth fuel p.next.next
        else .error ⟨.singleBrace, p.next.offset⟩
      | some c =>
        if c = '\\' && !kind.raw then
          match passEscape kind p.next with
          | .error e => .error e
          | .ok q => passFormat depth fuel q
        else passFormat depth fuel p.next

/-- Reads a replacement field after its opening brace. -/
def passField (depth start : Nat) : Nat → Place → FieldState → Except Located Place
  | 0, p, _ => .error ⟨.unclosedBrace, p.offset⟩
  | fuel + 1, p, f =>
    match p.peek with
    | none => .error ⟨if f.isBlank then .emptyExpression else .unclosedBrace, p.offset⟩
    | some c =>
      let q := p.next
      if startsComparison c q then passField depth start fuel q.next ((f.add c).add '=')
      else if c = '!' && f.opened.isEmpty then
        match passConversion f q with
        | .error e => .error e
        | .ok r => passField depth start fuel r f
      else if c = '=' && f.opened.isEmpty then
        passField depth start fuel q { f with shown := some f.chars, chars := c :: f.chars }
      else if c = ':' && f.opened.isEmpty then
        match passSpecifier depth fuel q with
        | .error e => .error e
        | .ok r => passField depth start fuel r f
      else if c = '(' || c = '[' || c = '\x7b' then
        passField depth start fuel q { (f.add c) with opened := c :: f.opened }
      else if c = ')' || c = ']' || (c = '\x7d' && !f.opened.isEmpty) then
        let opening := if c = ')' then '(' else if c = ']' then '[' else '\x7b'
        match f.close opening c q.offset with
        | .error e => .error e
        | .ok f => passField depth start fuel q f
      else if c = '\x7d' then endField check start f q
      else if isQuote c then
        match passInnerString c q (f.add c) with
        | .error e => .error e
        | .ok (f, r) => passField depth start fuel r f
      else if c = '\\' then .error ⟨.unterminatedString, q.offset⟩
      else if f.shown.isSome && c != ' ' then .error ⟨.unclosedBrace, q.offset⟩
      else passField depth start fuel q (f.add c)

/-- Reads the format of a field after its colon, up to the brace that ends the field. -/
def passSpecifier (depth : Nat) : Nat → Place → Except Located Place
  | 0, p => .error ⟨.unclosedBrace, p.offset⟩
  | fuel + 1, p =>
    match p.peek with
    | none => .ok p
    | some '\x7b' =>
      match passFormat (depth + 1) fuel p with
      | .error e => .error e
      | .ok q => passSpecifier depth fuel q
    | some '\x7d' => .ok p
    | some _ => passSpecifier depth fuel p.next

end

end

/-! ### Runs of strings -/

/-- The offset of the first character of a body. -/
def bodyOffset (start : Nat) (kind : StringKind) (triple : Bool) : Nat :=
  start + kind.letters.length + (if triple then 3 else 1)

/-- Checks one string of a run. -/
def checkString (check : List Char → Except Fault Unit) (s : Spanned) : Except Located Unit :=
  match s.token with
  | .string body kind triple =>
    let cs := body.toList
    let p : Place := ⟨cs, bodyOffset s.start kind triple⟩
    if kind.format then (passFormat check kind 0 (3 * cs.length + 3) p).map fun _ => ()
    else checkPlain kind (cs.length + 1) p
  | _ => .ok ()

/-- The token is a byte string. -/
def isBytes (s : Spanned) : Bool :=
  match s.token with
  | .string _ kind _ => kind.bytes
  | _ => false

/-- Checks a run of strings. -/
def checkStrings (check : List Char → Except Fault Unit) (ss : List Spanned) :
    Except Located Unit :=
  if ss.any isBytes && !ss.all isBytes then .error ⟨.mixedBytes, (ss.head?.map (·.start)).getD 0⟩
  else ss.forM (checkString check)

end Strict

end PythonAudit
