import PythonAudit.Concrete.Layout
import PythonAudit.Concrete.Lexeme

/-!
# Inside a string

The body of a string falls into pieces: stretches of content, escapes, doubled braces,
interpolations and the closing quote. `Quote.piece` reads one piece at the head of a text.

In a raw string a backslash keeps the quote or backslash after it from ending the string. Such a
pair is no content of its own: a raw string of nothing else reads as its closing quote.
-/

namespace PythonAudit

namespace Concrete

/-- A piece of a string and the number of its characters. -/
inductive Piece where
  | content (length : Nat)
  | brace
  | finish (length : Nat)
deriving DecidableEq, Repr, Inhabited

/-- The number of characters of a line end at the head of a text. -/
def lineEndLength : List Char → Nat
  | '\r' :: '\n' :: _ => 2
  | '\r' :: _ => 1
  | '\n' :: _ => 1
  | _ => 0

/-- In a raw string, the number of characters that a backslash covers with itself. -/
def Quote.coveredLength (q : Quote) (afterSlash : List Char) : Nat :=
  let mark :=
    match afterSlash with
    | c :: _ => if c = q.mark || c = '\\' then 1 else 0
    | [] => 0
  1 + mark + lineEndLength (afterSlash.drop mark)

/-- Reads a stretch of content, or the closing quote when there is no content before it. `length`
counts the characters passed and `filled` tells whether one of them is content of its own. -/
def Quote.stretch (q : Quote) : Nat → List Char → Nat → Bool → Option Piece
  | 0, _, _, _ => none
  | _, [], _, _ => none
  | fuel + 1, c :: r, length, filled =>
    let contentHere := if filled then some (Piece.content length) else none
    if c = '\x00' then none
    else if q.format && (c = '{' || c = '}') then contentHere
    else if c = '\\' && q.raw then
      let n := q.coveredLength r
      Quote.stretch q fuel (r.drop (n - 1)) (length + n) filled
    else if c = '\\' then
      if q.bytes && (r.head?.any fun d => d == 'N' || d == 'u' || d == 'U') then
        Quote.stretch q fuel (r.drop 2) (length + 3) true
      else contentHere
    else if c = q.mark then
      if q.triple then
        if r.head? = some q.mark then
          if (r.drop 1).head? = some q.mark then
            if filled then some (Piece.content length) else some (Piece.finish (length + 3))
          else some (Piece.content (length + 2))
        else some (Piece.content (length + 1))
      else if filled then some (Piece.content length)
      else some (Piece.finish (length + 1))
    else if c = '\n' && filled && !q.triple then none
    else Quote.stretch q fuel r (length + 1) true

/-- The length of a run of characters of a class, up to a limit. -/
def runUpTo (p : Char → Bool) (limit : Nat) (cs : List Char) : Nat :=
  ((cs.take limit).takeWhile p).length

/-- The number of characters of an escape at the head of a text, the backslash included. -/
def escapeLength : List Char → Nat
  | '\\' :: c :: r =>
    if c = 'u' then if runUpTo isHexDigit 4 r = 4 then 6 else 1
    else if c = 'U' then if runUpTo isHexDigit 8 r = 8 then 10 else 1
    else if c = 'x' then if runUpTo isHexDigit 2 r = 2 then 4 else 1
    else if c.isDigit then 2 + runUpTo Char.isDigit 2 r
    else if c = '\n' then 2
    else if c = '\r' then if r.head? = some '\n' then 3 else 1
    else if ['\'', '"', 'a', 'b', 'f', 'r', 'n', 't', 'v', '\\'].contains c then 2
    else if c = 'N' then
      let name := (r.drop 1).takeWhile (· != '}')
      if r.head? = some '{' && !name.isEmpty && name.length + 1 < r.length then name.length + 4
      else 1
    else 1
  | _ => 1

/-- The piece of a string at the head of a text. There is none where the string is faulty. -/
def Quote.piece (q : Quote) (cs : List Char) : Option Piece :=
  match cs with
  | [] => none
  | c :: r =>
    let plain :=
      if q.format && (c = '{' || c = '}') then
        if r.head? = some c then some (Piece.content 2) else none
      else q.stretch (cs.length + 1) cs 0 false
    match plain with
    | some p => some p
    | none =>
      if c = '{' then some Piece.brace
      else if c = '\\' then some (Piece.content (escapeLength cs))
      else none

end Concrete

end PythonAudit
