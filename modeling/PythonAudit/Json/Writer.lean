import PythonAudit.Json.Basic

/-!
# Writing JSON

`Json.compact` writes a value without blanks, and `Json.pretty` with one member or item on a line,
indented by two spaces for each level. In strings only quotes, backslashes and control characters
are escaped.
-/

namespace PythonAudit

namespace Json

/-- Numbers in JSON: digits alone from `10 ^ (-5)` up to `10 ^ 16`, and always a point or an
exponent. -/
def numberLayout : Layout := ⟨fun lead => -5 ≤ lead && lead ≤ 15, true, "+"⟩

/-- A hexadecimal digit in lower case. -/
def hexDigit (n : Nat) : Char :=
  if n < 10 then Char.ofNat ('0'.toNat + n) else Char.ofNat ('a'.toNat + n - 10)

/-- A character in a string. -/
def escapeChar (c : Char) : List Char :=
  if c = '"' then ['\\', '"']
  else if c = '\\' then ['\\', '\\']
  else if c = '\x08' then ['\\', 'b']
  else if c = '\x0c' then ['\\', 'f']
  else if c = '\n' then ['\\', 'n']
  else if c = '\r' then ['\\', 'r']
  else if c = '\t' then ['\\', 't']
  else if c.toNat < 0x20 then
    ['\\', 'u', '0', '0', hexDigit (c.toNat / 16), hexDigit (c.toNat % 16)]
  else [c]

/-- A string in quotes. -/
def writeString (s : String) : List Char :=
  '"' :: (s.toList.flatMap escapeChar ++ ['"'])

/-- A number; one that is infinite or no number is written as null. -/
def writeNumber (x : Double) : List Char :=
  if x.isFinite then (numberLayout.write x).toList else "null".toList

/-- A truth value. -/
def writeBool (b : Bool) : List Char := if b then "true".toList else "false".toList

mutual

/-- A value without blanks. -/
def compactChars : Json → List Char
  | null => "null".toList
  | bool b => writeBool b
  | natural n => (Nat.repr n).toList
  | number x => writeNumber x
  | string s => writeString s
  | array items => '[' :: (compactItems items ++ [']'])
  | object members => '\x7b' :: (compactMembers members ++ ['\x7d'])

/-- Items without blanks. -/
def compactItems : List Json → List Char
  | [] => []
  | [j] => compactChars j
  | j :: js => compactChars j ++ ',' :: compactItems js

/-- Members without blanks. -/
def compactMembers : List (String × Json) → List Char
  | [] => []
  | [(k, j)] => writeString k ++ ':' :: compactChars j
  | (k, j) :: ms => writeString k ++ ':' :: (compactChars j ++ ',' :: compactMembers ms)

end

/-- A value without blanks. -/
def compact (j : Json) : String := String.ofList j.compactChars

/-- A new line at a depth. -/
def newLine (depth : Nat) : List Char := '\n' :: List.replicate (2 * depth) ' '

mutual

/-- A value on several lines at a depth. -/
def prettyChars (depth : Nat) : Json → List Char
  | null => "null".toList
  | bool b => writeBool b
  | natural n => (Nat.repr n).toList
  | number x => writeNumber x
  | string s => writeString s
  | array [] => ['[', ']']
  | array (j :: js) => '[' :: (prettyItems (depth + 1) (j :: js) ++ newLine depth ++ [']'])
  | object [] => ['\x7b', '\x7d']
  | object (m :: ms) => '\x7b' :: (prettyMembers (depth + 1) (m :: ms) ++ newLine depth ++ ['\x7d'])

/-- Items on lines of their own. -/
def prettyItems (depth : Nat) : List Json → List Char
  | [] => []
  | [j] => newLine depth ++ prettyChars depth j
  | j :: js => newLine depth ++ prettyChars depth j ++ ',' :: prettyItems depth js

/-- Members on lines of their own. -/
def prettyMembers (depth : Nat) : List (String × Json) → List Char
  | [] => []
  | [(k, j)] => newLine depth ++ writeString k ++ ':' :: ' ' :: prettyChars depth j
  | (k, j) :: ms =>
    newLine depth ++ writeString k ++ ':' :: ' ' ::
      (prettyChars depth j ++ ',' :: prettyMembers depth ms)

end

/-- A value on several lines. -/
def pretty (j : Json) : String := String.ofList (j.prettyChars 0)

end Json

end PythonAudit
