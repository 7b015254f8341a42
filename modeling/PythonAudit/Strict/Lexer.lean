import PythonAudit.Strict.Fault
import PythonAudit.Text.Emoji

/-!
# Reading tokens

`lex` cuts a text into tokens. A carriage return, with or without a line feed, ends a line like a
line feed does. Inside brackets line ends and margins mean nothing; elsewhere a deeper margin gives
an indent and a shallower one gives dedents. A fault ends the stream.
-/

namespace PythonAudit

namespace Strict

open Text

/-! ### Places -/

/-- A place in a text: its byte offset and what follows. -/
structure Place where
  rest : List Char
  offset : Nat
deriving Inhabited

namespace Place

/-- The character that comes next; every kind of line end reads as a line feed. -/
def peek (p : Place) : Option Char :=
  match p.rest with
  | [] => none
  | c :: _ => some (if c = '\r' then '\n' else c)

/-- The place after the next character. -/
def next (p : Place) : Place :=
  match p.rest with
  | [] => p
  | '\r' :: '\n' :: r => ⟨r, p.offset + 2⟩
  | c :: r => ⟨r, p.offset + c.utf8Size⟩

/-- The place after a number of characters. -/
def skip : Nat → Place → Place
  | 0, p => p
  | n + 1, p => skip n p.next

/-- The place after all characters that satisfy a test. -/
def skipWhile (p : Place) (test : Char → Bool) : Place :=
  p.skip (p.rest.takeWhile test).length

end Place

/-! ### Margins -/

/-- A margin: tabs and then spaces. -/
structure Margin where
  tabs : Nat := 0
  spaces : Nat := 0
deriving DecidableEq, Repr, Inhabited

/-- The order of two margins, where it does not depend on the width of a tab. -/
def Margin.compare? (a b : Margin) : Option Ordering :=
  if a.tabs < b.tabs then (if a.spaces ≤ b.spaces then some .lt else none)
  else if b.tabs < a.tabs then (if b.spaces ≤ a.spaces then some .gt else none)
  else some (compare a.spaces b.spaces)

/-- Reads the margin of the next line that holds a token. Blank lines and comment lines have
none. -/
def readMargin : Nat → Place → Margin → Except Located (Margin × Place)
  | 0, p, m => .ok (m, p)
  | fuel + 1, p, m =>
    match p.peek with
    | none => .ok ({}, p)
    | some ' ' => readMargin fuel p.next { m with spaces := m.spaces + 1 }
    | some '\t' =>
      if m.spaces = 0 then readMargin fuel p.next { m with tabs := m.tabs + 1 }
      else .error ⟨.tabAfterSpace, p.offset⟩
    | some '#' => readMargin fuel (p.skipWhile fun c => c != '\n' && c != '\r') {}
    | some '\x0c' => readMargin fuel p.next {}
    | some '\n' => readMargin fuel p.next {}
    | some _ => .ok (m, p)

/-- Closes margins down to a given one; the answer is the number of margins closed and those
left. -/
def closeMargins (m : Margin) (offset : Nat) : List Margin → Except Located (Nat × List Margin)
  | [] => .ok (0, [])
  | top :: rest =>
    match m.compare? top with
    | none => .error ⟨.inconsistentMargin, offset⟩
    | some .eq => .ok (0, top :: rest)
    | some .gt => .error ⟨.unknownMargin, offset⟩
    | some .lt => (closeMargins m offset rest).map fun (n, left) => (n + 1, left)

/-! ### Numbers -/

/-- A digit of a base between two and sixteen. -/
def isDigitOf (base : Nat) (c : Char) : Bool :=
  if base ≤ 10 then c.isDigit && c.toNat < '0'.toNat + base
  else c.isDigit || ('a' ≤ c && c ≤ 'f') || ('A' ≤ c && c ≤ 'F')

/-- The value of a digit. -/
def digitValue (c : Char) : Nat :=
  if c.isDigit then c.toNat - '0'.toNat else c.toLower.toNat - 'a'.toNat + 10

/-- A run of digits with single underscores between them: the digits and the number of
characters. -/
def digitRun (base : Nat) : List Char → List Char × Nat
  | [] => ([], 0)
  | '_' :: c :: r =>
    if isDigitOf base c then
      let (ds, n) := digitRun base r
      (c :: ds, n + 2)
    else ([], 0)
  | c :: r =>
    if isDigitOf base c then
      let (ds, n) := digitRun base r
      (c :: ds, n + 1)
    else ([], 0)

/-- The number that some digits write. -/
def digitsValue (base : Nat) (ds : List Char) : Nat :=
  ds.foldl (fun n c => n * base + digitValue c) 0

/-- An exponent with at least one digit comes next. -/
def atExponent : List Char → Bool
  | c :: d :: r =>
    (c == 'e' || c == 'E') && (d.isDigit || ((d == '+' || d == '-') && (r.head?.any Char.isDigit)))
  | _ => false

/-- The text goes on with a mark and an underscore after it. -/
def underscoreAfter (marks : List Char) : List Char → Bool
  | c :: '_' :: _ => marks.contains c
  | _ => false

/-- The exponent of a number: its value and the place after it. An exponent without digits is
refused. -/
def readExponent (p : Place) : Except Located (Int × Place) :=
  match p.peek with
  | some c =>
    if c = 'e' || c = 'E' then
      if underscoreAfter ['e', 'E'] p.rest then .error ⟨.misplacedUnderscore, p.offset⟩
      else
        let p := p.next
        let signed := p.peek == some '-' || p.peek == some '+'
        if signed && underscoreAfter ['-', '+'] p.rest then .error ⟨.misplacedUnderscore, p.offset⟩
        else
          let negative := p.peek == some '-'
          let p := if signed then p.next else p
          let (ds, n) := digitRun 10 p.rest
          let p := p.skip n
          if ds.isEmpty then .error ⟨.invalidDecimal, p.offset⟩
          else
            let value : Int := digitsValue 10 ds
            .ok (if negative then -value else value, p)
    else .ok (0, p)
  | none => .ok (0, p)

/-- A trailing letter makes a number imaginary. -/
def readImaginary (value : Double) (p : Place) : Token × Place :=
  if p.peek == some 'j' || p.peek == some 'J' then (.imaginary value, p.next) else (.float value, p)

/-- A number with a point or an exponent, after its whole digits. -/
def readFloat (whole : List Char) (p : Place) : Except Located (Token × Place) := do
  if p.peek == some '.' && underscoreAfter ['.'] p.rest then throw ⟨.misplacedUnderscore, p.offset⟩
  let (part, p) :=
    if p.peek == some '.' then
      let (ds, n) := digitRun 10 p.next.rest
      (ds, p.next.skip n)
    else ([], p)
  let (exponent, p) ← readExponent p
  let value : Decimal := ⟨digitsValue 10 (whole ++ part), exponent - part.length⟩
  return readImaginary value.toDouble p

/-- A number in a base that its first two characters name. -/
def readRadix (base : Nat) (p : Place) : Except Located (Token × Place) :=
  let (ds, n) := digitRun base (p.skip 2).rest
  if ds.isEmpty then .error ⟨.digitsMissing, p.offset⟩
  else .ok (.integer (digitsValue base ds), (p.skip 2).skip n)

/-- The base that the first two characters of a number name. -/
def radix? : List Char → Option Nat
  | '0' :: c :: _ =>
    if c = 'x' || c = 'X' then some 16
    else if c = 'o' || c = 'O' then some 8
    else if c = 'b' || c = 'B' then some 2
    else none
  | _ => none

/-- A number. -/
def readNumber (p : Place) : Except Located (Token × Place) :=
  match radix? p.rest with
  | some base => readRadix base p
  | none =>
    let (whole, n) := digitRun 10 p.rest
    let q := p.skip n
    if q.peek == some '.' || atExponent q.rest then readFloat whole q
    else
      let value := digitsValue 10 whole
      if q.peek == some 'j' || q.peek == some 'J' then
        .ok (.imaginary (Decimal.toDouble ⟨value, 0⟩), q.next)
      else if whole.head? == some '0' && value != 0 then .error ⟨.leadingZero, q.offset⟩
      else .ok (.integer value, q)

/-! ### Strings -/

/-- The text goes on with two more quotes. -/
def twoMore (mark : Char) (p : Place) : Bool := p.rest.take 2 == [mark, mark]

/-- The rest of a string after its opening: the characters read so far are kept in reverse. -/
def readBody (mark : Char) (triple : Bool) :
    Nat → Place → List Char → Except Located (String × Place)
  | 0, p, _ => .error ⟨.textEnded, p.offset⟩
  | fuel + 1, p, acc =>
    match p.peek with
    | none => .error ⟨if triple then .textEnded else .unexpectedString, p.offset⟩
    | some c =>
      let q := p.next
      if c = '\\' then
        match q.peek with
        | some d => readBody mark triple fuel q.next (d :: '\\' :: acc)
        | none => readBody mark triple fuel q ('\\' :: acc)
      else if c = '\n' && !triple then .error ⟨.lineEndedInString, q.offset⟩
      else if c = mark then
        if !triple then .ok (String.ofList acc.reverse, q)
        else if twoMore mark q then .ok (String.ofList acc.reverse, q.skip 2)
        else readBody mark triple fuel q (c :: acc)
      else readBody mark triple fuel q (c :: acc)

/-- A string whose kind is known from the `letters` characters before its quote; `bound` exceeds the
number of characters that are left. -/
def readString (bound : Nat) (kind : StringKind) (letters : Nat) (p : Place) :
    Except Located (Token × Place) :=
  let q := p.skip letters
  match q.peek with
  | none => .error ⟨.unexpectedString, q.offset⟩
  | some mark =>
    let q := q.next
    let triple := twoMore mark q
    let q := if triple then q.skip 2 else q
    (readBody mark triple bound q []).map fun (body, r) => (.string body kind triple, r)

/-! ### Words and signs -/

/-- A quote of a string. -/
def isQuote (c : Char) : Bool := c == '\'' || c == '"'

/-- The kind of a string that starts here, and the number of letters before its quote. -/
def stringStart? : List Char → Option (StringKind × Nat)
  | [] => none
  | a :: r =>
    if isQuote a then some ({}, 0)
    else
      match r with
      | [] => none
      | b :: s =>
        if isQuote b then (StringKind.ofLetters? [a]).map (·, 1)
        else if s.head?.any isQuote then (StringKind.ofLetters? [a, b]).map (·, 2)
        else none

/-- Signs of three, two and one characters. -/
def signs : List String :=
  ["**=", "//=", "<<=", ">>=", "...", "**", "//", "<<", ">>", "==", "!=", "<=", ">=", "->", ":=",
    "+=", "-=", "*=", "/=", "%=", "&=", "|=", "^=", "@=", "(", ")", "[", "]", "\x7b", "\x7d", ",",
    ":", ";", ".", "+", "-", "*", "/", "%", "&", "|", "^", "~", "@", "<", ">", "="]

/-- The longest sign at the head of a text. -/
def signAt (cs : List Char) : Option String := signs.find? fun s => s.toList.isPrefixOf cs

/-- A sign that opens a bracket. -/
def opens (s : String) : Bool := s == "(" || s == "[" || s == "\x7b"

/-- A sign that closes a bracket. -/
def closes (s : String) : Bool := s == ")" || s == "]" || s == "\x7d"

/-- A word or name. -/
def wordToken (cs : List Char) : Token :=
  let text := String.ofList cs
  if keywords.contains text then .word text else .name text

/-- A blank between tokens. -/
def isSpace (c : Char) : Bool := c == ' ' || c == '\t' || c == '\x0c'

/-! ### The stream -/

/-- The state of the lexer. `bound` exceeds the number of characters of the text. -/
structure LexState where
  place : Place
  bound : Nat
  nesting : Nat := 0
  margins : List Margin := [{}]
  lineStart : Bool := true
deriving Inhabited

/-- Adds a token that stands between two places. -/
def spanned (token : Token) (p q : Place) : Spanned := ⟨token, p.offset, q.offset⟩

/-- The indents or dedents at the start of a line. -/
def startLine (s : LexState) : Except Located (List Spanned × LexState) := do
  let (m, p) ← readMargin s.bound s.place {}
  let s := { s with place := p, lineStart := p.rest.isEmpty }
  let top := s.margins.headD {}
  match m.compare? top with
  | none => throw ⟨.inconsistentMargin, p.offset⟩
  | some .eq => return ([], s)
  | some .gt =>
    return ([⟨.indent, p.offset - m.spaces - m.tabs, p.offset⟩],
      { s with margins := m :: s.margins })
  | some .lt =>
    let (n, left) ← closeMargins m p.offset s.margins
    return (List.replicate n ⟨.dedent, p.offset, p.offset⟩, { s with margins := left })

/-- What the end of the text gives. -/
def endText (s : LexState) : Except Located (List Spanned) :=
  let here := s.place.offset
  if 0 < s.nesting then .error ⟨.textEnded, here⟩
  else .ok ((if s.lineStart then [] else [⟨.newline, here, here⟩]) ++
    List.replicate (s.margins.length - 1) ⟨.dedent, here, here⟩)

/-- The token at a place that is neither blank nor at the end of the text. -/
def readToken (s : LexState) (c : Char) : Except Located (List Spanned × LexState) := do
  let p := s.place
  match stringStart? p.rest with
  | some (kind, letters) =>
    let (t, q) ← readString s.bound kind letters p
    return ([spanned t p q], { s with place := q })
  | none =>
    if isIdentifierStart c then
      let w := leadingIdentifier p.rest
      let q := p.skip w.length
      return ([spanned (wordToken w) p q], { s with place := q })
    else if c.isDigit || (c == '.' && (p.next.peek.any Char.isDigit)) then
      let (t, q) ← readNumber p
      return ([spanned t p q], { s with place := q })
    else
      match signAt p.rest with
      | some g =>
        let q := p.skip g.length
        if closes g && s.nesting = 0 then throw ⟨.unexpectedNesting, q.offset⟩
        let nesting :=
          if opens g then s.nesting + 1 else if closes g then s.nesting - 1 else s.nesting
        return ([spanned (.sign g) p q], { s with place := q, nesting })
      | none =>
        if isEmoji c then return ([spanned (.name c.toString) p p.next], { s with place := p.next })
        else if c = '!' then throw ⟨.strayCharacter c, p.offset⟩
        else throw ⟨.strayCharacter c, p.next.offset⟩

/-- Reads on by at least one character. -/
def lexStep (s : LexState) (c : Char) : Except Located (List Spanned × LexState) := do
  let p := s.place
  if isSpace c then return ([], { s with place := p.skipWhile isSpace })
  else if c = '#' then return ([], { s with place := p.skipWhile fun c => c != '\n' && c != '\r' })
  else if c = '\n' then
    if s.nesting = 0 then
      return ([spanned .newline p p.next], { s with place := p.next, lineStart := true })
    else return ([], { s with place := p.next })
  else if c = '\\' then
    let q := p.next
    if q.peek != some '\n' then throw ⟨.strayContinuation, q.offset⟩
    else if q.next.rest.isEmpty then throw ⟨.textEnded, q.next.offset⟩
    else return ([], { s with place := q.next })
  else readToken s c

/-- The stream of tokens from a state on. -/
def lexWith : Nat → LexState → Stream
  | 0, _ => []
  | fuel + 1, s =>
    match if s.lineStart then startLine s else .ok ([], s) with
    | .error e => [.error e]
    | .ok (before, s) =>
      let later : Stream :=
        match s.place.peek with
        | none =>
          match endText s with
          | .error e => [.error e]
          | .ok ts => ts.map .ok
        | some c =>
          match lexStep s c with
          | .error e => [.error e]
          | .ok (ts, s) => ts.map .ok ++ lexWith fuel s
      before.map .ok ++ later

/-- The tokens of a text. A mark of the byte order at the start is passed. -/
def lex (text : List Char) : Stream :=
  let place : Place :=
    match text with
    | '\uFEFF' :: r => ⟨r, 3⟩
    | cs => ⟨cs, 0⟩
  lexWith (text.length + 1) { place, bound := text.length + 1 }

end Strict

end PythonAudit
