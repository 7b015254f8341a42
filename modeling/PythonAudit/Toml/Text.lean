import PythonAudit.Literal.Escape
import PythonAudit.Toml.Basic

/-!
# Blanks, strings and keys of TOML
-/

namespace PythonAudit

namespace Toml

open Literal

/-! ### Blanks -/

/-- A blank inside a line. -/
def isBlank (c : Char) : Bool := c == ' ' || c == '\t'

/-- The text after its blanks. -/
def skipBlanks (cs : List Char) : List Char := cs.dropWhile isBlank

/-- The text after a line end. -/
def lineEnd? : List Char → Option (List Char)
  | '\n' :: r => some r
  | '\r' :: '\n' :: r => some r
  | _ => none

/-- A character that may stand in a comment or a literal string. -/
def isPrintable (c : Char) : Bool := c == '\t' || (0x20 ≤ c.toNat && c.toNat != 0x7f)

/-- A character of a comment. -/
def isCommentChar (c : Char) : Bool := c == '\t' || 0x20 ≤ c.toNat

/-- The text after a comment, if one comes next. -/
def skipComment : List Char → List Char
  | '#' :: r => r.dropWhile isCommentChar
  | r => r

/-- The text after the rest of a line that holds nothing more than a comment. -/
def finishLine? (cs : List Char) : Option (List Char) :=
  match skipComment (skipBlanks cs) with
  | [] => some []
  | r => lineEnd? r

/-- The text after blanks, line ends and comments. -/
def skipLines : Nat → List Char → List Char
  | 0, cs => cs
  | fuel + 1, cs =>
    let r := skipComment (skipBlanks cs)
    match lineEnd? r with
    | some r => skipLines fuel r
    | none => r

/-! ### Strings -/

/-- The character that an escape stands for. -/
def escapeChar? : Reader Char
  | 'u' :: r => (hexEscape? 4 r).map (·, r.drop 4)
  | 'U' :: r => (hexEscape? 8 r).map (·, r.drop 8)
  | c :: r =>
    if c = 'b' || c = 't' || c = 'n' || c = 'f' || c = 'r' || c = '"' || c = '\\' then
      (letterEscape? c).map (·, r)
    else none
  | [] => none

/-- The rest of a string in double quotes on one line; the characters read are kept in reverse. -/
def basicString : Nat → List Char → List Char → Option (String × List Char)
  | 0, _, _ => none
  | fuel + 1, cs, acc =>
    match cs with
    | [] => none
    | '"' :: r => some (String.ofList acc.reverse, r)
    | '\\' :: r =>
      match escapeChar? r with
      | some (c, r) => basicString fuel r (c :: acc)
      | none => none
    | c :: r => if isPrintable c then basicString fuel r (c :: acc) else none

/-- The text after a backslash at the end of a line: all blanks and line ends are passed. -/
def continuedLine? (cs : List Char) : Option (List Char) :=
  match lineEnd? (skipBlanks cs) with
  | none => none
  | some r => some (r.dropWhile fun c => isBlank c || c == '\n' || c == '\r')

/-- The number of times a character stands at the head of a text. -/
def runLength (c : Char) (cs : List Char) : Nat := (cs.takeWhile (· == c)).length

/-- The end of a string on several lines: three quotes, of which up to two more belong to the
string. -/
def closeLong? (mark : Char) (cs : List Char) : Option (List Char × List Char) :=
  let n := runLength mark cs
  if 3 ≤ n then some (List.replicate (min n 5 - 3) mark, cs.drop (min n 5)) else none

/-- The rest of a string in three double quotes. -/
def longBasicString : Nat → List Char → List Char → Option (String × List Char)
  | 0, _, _ => none
  | fuel + 1, cs, acc =>
    match closeLong? '"' cs with
    | some (more, r) => some (String.ofList (acc.reverse ++ more), r)
    | none =>
      match lineEnd? cs with
      | some r => longBasicString fuel r ('\n' :: acc)
      | none =>
        match cs with
        | [] => none
        | '\\' :: r =>
          match continuedLine? r with
          | some r => longBasicString fuel r acc
          | none =>
            match escapeChar? r with
            | some (c, r) => longBasicString fuel r (c :: acc)
            | none => none
        | c :: r => if isPrintable c then longBasicString fuel r (c :: acc) else none

/-- The rest of a string in single quotes on one line. -/
def literalString (cs : List Char) : Option (String × List Char) :=
  let body := cs.takeWhile fun c => c != '\'' && isPrintable c
  match cs.drop body.length with
  | '\'' :: r => some (String.ofList body, r)
  | _ => none

/-- The rest of a string in three single quotes. -/
def longLiteralString : Nat → List Char → List Char → Option (String × List Char)
  | 0, _, _ => none
  | fuel + 1, cs, acc =>
    match closeLong? '\'' cs with
    | some (more, r) => some (String.ofList (acc.reverse ++ more), r)
    | none =>
      match lineEnd? cs with
      | some r => longLiteralString fuel r ('\n' :: acc)
      | none =>
        match cs with
        | [] => none
        | c :: r => if isPrintable c then longLiteralString fuel r (c :: acc) else none

/-- The text after a line end right after the opening of a long string. -/
def skipFirstLineEnd (cs : List Char) : List Char := (lineEnd? cs).getD cs

/-- A string of one of the four kinds. -/
def string? : Reader String
  | '"' :: '"' :: '"' :: r => longBasicString (r.length + 1) (skipFirstLineEnd r) []
  | '"' :: r => basicString (r.length + 1) r []
  | '\'' :: '\'' :: '\'' :: r => longLiteralString (r.length + 1) (skipFirstLineEnd r) []
  | '\'' :: r => literalString r
  | _ => none

/-! ### Keys -/

/-- A character of a key without quotes. -/
def isKeyChar (c : Char) : Bool := c.isAlphanum || c == '_' || c == '-'

/-- One part of a key. -/
def simpleKey? : Reader String
  | '"' :: r => basicString (r.length + 1) r []
  | '\'' :: r => literalString r
  | cs =>
    let key := cs.takeWhile isKeyChar
    if key.isEmpty then none else some (String.ofList key, cs.drop key.length)

/-- The parts of a key, divided by dots. -/
def key? : Nat → List Char → Option (List String × List Char)
  | 0, _ => none
  | fuel + 1, cs =>
    match simpleKey? (skipBlanks cs) with
    | none => none
    | some (k, r) =>
      match skipBlanks r with
      | '.' :: r => (key? fuel r).map fun (ks, r) => (k :: ks, r)
      | r => some ([k], r)

end Toml

end PythonAudit
