import PythonAudit.Text.Identifier
import PythonAudit.Text.Point

/-!
# Layout: what stands between two tokens

The meaning of a line end depends on what the grammar can use at that place. `Wanted` lists which of
the layout signs are usable; `State.read` passes blanks, comments and continued lines and answers
with a `Sign`: the end of a logical line, a deeper or shallower margin, the opening of a string, or
plain text.

A line end that is not wanted is a blank. A shallower margin is seen even where it is not wanted,
unless a closing bracket could follow or the text is inside an interpolation; there it makes the
source faulty.
-/

namespace PythonAudit

namespace Concrete

/-- The opening of a string: its quote, and what the letters before it say. -/
structure Quote where
  mark : Char
  triple : Bool := false
  format : Bool := false
  raw : Bool := false
  bytes : Bool := false
deriving DecidableEq, Repr, Inhabited

/-- The layout signs that the grammar can use at a place. -/
structure Wanted where
  newline : Bool := false
  indent : Bool := false
  dedent : Bool := false
  string : Bool := false
  close : Bool := false
  handler : Bool := false
deriving DecidableEq, Repr, Inhabited

/-- What comes next. -/
inductive Sign where
  | newline
  | indent
  | dedent
  | quote (q : Quote) (length : Nat)
  | text
deriving DecidableEq, Repr, Inhabited

/-- A token that was read: where it starts and how it is spelt. -/
structure Mark where
  start : Cursor
  text : String
deriving Inhabited

/-- The state of the reader: the place after the last token, the open margins (innermost first), the
open strings, whether the innermost string takes interpolations, the continued lines passed, and the
tokens read. `bound` exceeds the number of characters of the text. -/
structure State where
  cursor : Cursor
  margins : List Nat := [0]
  quotes : List Quote := []
  interpolated : Bool := false
  continuations : List Extent := []
  trail : List Mark := []
  bound : Nat
deriving Inhabited

/-- The state before the first character. -/
def State.start (cs : List Char) : State :=
  { cursor := Cursor.start cs, bound := cs.length + 2 }

/-- A character that only separates tokens. -/
def isBlank (c : Char) : Bool :=
  ('\t' ≤ c && c ≤ '\r') || c == ' ' || c == '\uFEFF' || c == '\u2060' || c == '\u200B'

/-! ### Margins -/

/-- What the blanks before a token amount to: whether a line ended, the width of the last margin,
and the width before the first comment line that was passed. -/
structure Margin where
  rest : List Char
  lineEnded : Bool := false
  width : Nat := 0
  comment : Option Nat := none
  inComment : Bool := false
deriving Inhabited

/-- Measures the margin before the next token; a comment line is passed only when `marks` holds.
There is no margin when a comment ends the current line or a backslash does not end its line. -/
def Margin.measure (marks : Bool) : List Char → Margin → Option Margin
  | [], m => some { m with rest := [], lineEnded := true, width := 0 }
  | '\\' :: '\r' :: '\n' :: r, m =>
    if m.inComment then Margin.measure marks r { m with inComment := false, width := 0 }
    else Margin.measure marks r m
  | '\\' :: '\n' :: r, m =>
    if m.inComment then Margin.measure marks r { m with inComment := false, width := 0 }
    else Margin.measure marks r m
  | c :: r, m =>
    if m.inComment then
      if c = '\n' || c = '\x00' then
        Margin.measure marks r { m with inComment := false, width := 0 }
      else Margin.measure marks r m
    else if c = '\n' then Margin.measure marks r { m with lineEnded := true, width := 0 }
    else if c = ' ' then Margin.measure marks r { m with width := m.width + 1 }
    else if c = '\r' || c = '\x0c' then Margin.measure marks r { m with width := 0 }
    else if c = '\t' then Margin.measure marks r { m with width := m.width + 8 }
    else if c = '#' && marks then
      if m.lineEnded then
        Margin.measure marks r { m with comment := m.comment.or (some m.width), inComment := true }
      else none
    else if c = '\\' then
      if r = [] || r = ['\r'] then some { m with rest := [], lineEnded := true, width := 0 }
      else none
    else some { m with rest := c :: r }

/-! ### Openings of strings -/

/-- The letters that may stand before a quote. -/
def Quote.addLetter (q : Quote) (c : Char) : Option Quote :=
  if c = 'f' || c = 'F' then some { q with format := true }
  else if c = 'r' || c = 'R' then some { q with raw := true }
  else if c = 'b' || c = 'B' then some { q with bytes := true }
  else if c = 'u' || c = 'U' then some q
  else none

/-- The opening of a string at the head of a text, and the number of its characters. -/
def Quote.opening : List Char → Quote → Nat → Option (Quote × Nat)
  | [], _, _ => none
  | c :: r, q, n =>
    match q.addLetter c with
    | some q => Quote.opening r q (n + 1)
    | none =>
      if c = '\x60' then some ({ q with mark := c }, n + 1)
      else if c = '\'' || c = '"' then
        if r.take 2 = [c, c] then some ({ q with mark := c, triple := true }, n + 3)
        else some ({ q with mark := c }, n + 1)
      else none

/-! ### Reading up to the next token -/

/-- The next sign, and the state once everything before it has been passed. -/
structure Ahead where
  sign : Sign
  state : State
deriving Inhabited

/-- Whether the next character opens a string without letters before it. -/
def startsQuote : List Char → Bool
  | c :: _ => c == '"' || c == '\'' || c == '\x60'
  | [] => false

/-- The sign that layout gives at a place, if any. -/
def State.sign? (s : State) (w : Wanted) : Option Ahead :=
  let marks := w.indent || w.dedent || w.newline || w.handler
  match Margin.measure marks s.cursor.rest { rest := s.cursor.rest } with
  | none => none
  | some m =>
    let top := s.margins.headD 0
    let shallower := (w.dedent || (!w.newline && !(w.string && startsQuote m.rest) && !w.close))
      && m.width < top && !s.interpolated && (m.comment.all (· < top))
    if m.lineEnded && w.indent && top < m.width then
      some ⟨.indent, { s with margins := m.width :: s.margins }⟩
    else if m.lineEnded && shallower then
      some ⟨.dedent, { s with margins := s.margins.tail }⟩
    else if m.lineEnded && w.newline then
      some ⟨.newline, s⟩
    else if m.comment.isNone && w.string then
      match Quote.opening m.rest { mark := '"' } 0 with
      | none => none
      | some (q, n) =>
        some ⟨.quote q n, { s with cursor := s.cursor.skip (s.cursor.rest.length - m.rest.length) }⟩
    else none

/-- The number of characters of a continued line end at the head of a text. -/
def continuationLength : List Char → Option Nat
  | '\\' :: '\n' :: _ => some 2
  | '\\' :: '\r' :: '\n' :: _ => some 3
  | '\\' :: '\x00' :: _ => some 2
  | _ => none

/-- Passes blanks, comments and continued lines up to the next sign. -/
def State.readWith (w : Wanted) : Nat → State → Ahead
  | 0, s => ⟨.text, s⟩
  | fuel + 1, s =>
    match s.sign? w with
    | some a => a
    | none =>
      let k := s.cursor.skipWhile isBlank
      match k.rest with
      | '#' :: _ => State.readWith w fuel { s with cursor := k.skipWhile (· != '\n') }
      | r =>
        match continuationLength r with
        | some n =>
          let k' := k.skip n
          State.readWith w fuel
            { s with cursor := k', continuations := ⟨k.point, k'.point⟩ :: s.continuations }
        | none => ⟨.text, { s with cursor := k }⟩

/-- Reads up to the next sign. -/
def State.read (s : State) (w : Wanted) : Ahead :=
  s.readWith w s.bound

end Concrete

end PythonAudit
