import PythonAudit.Json.Basic
import PythonAudit.Literal.Escape

/-!
# Reading JSON

`Json.parse?` reads a whole text. Each reader takes what belongs to it from the head of a text and
answers with the rest.
-/

namespace PythonAudit

namespace Json

open Literal

/-- A blank between tokens. -/
def isBlank (c : Char) : Bool := c == ' ' || c == '\n' || c == '\t' || c == '\r'

/-- The text after its blanks. -/
def skipBlanks (cs : List Char) : List Char := cs.dropWhile isBlank

/-! ### Strings -/

/-- Four hexadecimal digits. -/
def readUnit? (cs : List Char) : Option (Nat × List Char) :=
  let ds := leadingDigits hexDigit? 4 cs
  if ds.length = 4 then some (ofDigits 16 ds, cs.drop 4) else none

/-- A character from its units after `\u`: one unit, or two that stand for a character beyond the
first plane. -/
def readUnicode? (cs : List Char) : Option (Char × List Char) := do
  let (hi, r) ← readUnit? cs
  if 0xD800 ≤ hi && hi < 0xDC00 then
    match r with
    | '\\' :: 'u' :: r =>
      let (lo, r) ← readUnit? r
      if 0xDC00 ≤ lo && lo < 0xE000 then
        some (Char.ofNat (0x10000 + (hi - 0xD800) * 0x400 + (lo - 0xDC00)), r)
      else none
    | _ => none
  else (charOfCode? hi).map (·, r)

/-- The character that a letter stands for after a backslash. -/
def letter? : Char → Option Char
  | '"' => some '"'
  | '\\' => some '\\'
  | '/' => some '/'
  | 'b' => some '\x08'
  | 'f' => some '\x0c'
  | 'n' => some '\n'
  | 'r' => some '\r'
  | 't' => some '\t'
  | _ => none

/-- The rest of a string after its opening quote; the characters read are kept in reverse. -/
def readChars : Nat → List Char → List Char → Option (String × List Char)
  | 0, _, _ => none
  | fuel + 1, cs, acc =>
    match cs with
    | [] => none
    | '"' :: r => some (String.ofList acc.reverse, r)
    | '\\' :: 'u' :: r =>
      match readUnicode? r with
      | some (c, r) => readChars fuel r (c :: acc)
      | none => none
    | '\\' :: c :: r =>
      match letter? c with
      | some d => readChars fuel r (d :: acc)
      | none => none
    | c :: r => if c.toNat < 0x20 then none else readChars fuel r (c :: acc)

/-- The rest of a string after its opening quote. -/
def readString? (cs : List Char) : Option (String × List Char) := readChars (cs.length + 1) cs []

/-! ### Numbers -/

/-- The value of decimal digits. -/
def digitsOf (ds : List Char) : Nat := ds.foldl (fun n c => n * 10 + (c.toNat - '0'.toNat)) 0

/-- The digits after a point; a point without digits is refused. -/
def readFraction? : List Char → Option (List Char × List Char)
  | '.' :: r =>
    let ds := r.takeWhile Char.isDigit
    if ds.isEmpty then none else some (ds, r.drop ds.length)
  | r => some ([], r)

/-- The digits of an exponent after its sign. -/
def readPower? (negative : Bool) (r : List Char) : Option (Option Int × List Char) :=
  let ds := r.takeWhile Char.isDigit
  let n : Int := digitsOf ds
  if ds.isEmpty then none else some (some (if negative then -n else n), r.drop ds.length)

/-- An exponent, if there is one. -/
def readExponent? : List Char → Option (Option Int × List Char)
  | c :: r =>
    if c = 'e' || c = 'E' then
      match r with
      | '-' :: r => readPower? true r
      | '+' :: r => readPower? false r
      | r => readPower? false r
    else some (none, c :: r)
  | [] => some (none, [])

/-- The number with a sign, whole digits, a fraction and an exponent. One that is too great is
refused. -/
def makeNumber? (negative : Bool) (whole fraction : List Char) (exponent : Option Int) :
    Option Json :=
  let n := digitsOf whole
  if !negative && fraction.isEmpty && exponent.isNone && n < Nat.pow 2 64 then some (natural n)
  else
    let d : Decimal := ⟨digitsOf (whole ++ fraction), exponent.getD 0 - fraction.length⟩
    let x := d.toDouble
    if x.isFinite then some (number (if negative then x.neg else x)) else none

/-- A number after its sign. -/
def readMagnitude? (negative : Bool) (cs : List Char) : Option (Json × List Char) := do
  let whole := cs.takeWhile Char.isDigit
  if whole.isEmpty || (whole.head? == some '0' && 1 < whole.length) then none
  else
    let (fraction, r) ← readFraction? (cs.drop whole.length)
    let (exponent, r) ← readExponent? r
    let j ← makeNumber? negative whole fraction exponent
    some (j, r)

/-- A number. -/
def readNumber? : List Char → Option (Json × List Char)
  | '-' :: r => readMagnitude? true r
  | r => readMagnitude? false r

/-! ### Values -/

/-- A given word. -/
def readWord? (w : String) (j : Json) (cs : List Char) : Option (Json × List Char) :=
  if w.toList.isPrefixOf cs then some (j, cs.drop w.length) else none

mutual

/-- A value at the head of a text; `fuel` bounds its depth and length. -/
def readValue : Nat → List Char → Option (Json × List Char)
  | 0, _ => none
  | fuel + 1, cs =>
    match skipBlanks cs with
    | [] => none
    | '"' :: r => (readString? r).map fun (s, r) => (string s, r)
    | '[' :: r =>
      match skipBlanks r with
      | ']' :: r => some (array [], r)
      | r => readItems fuel r []
    | '\x7b' :: r =>
      match skipBlanks r with
      | '\x7d' :: r => some (object [], r)
      | r => readMembers fuel r []
    | 'n' :: r => readWord? "null" null ('n' :: r)
    | 't' :: r => readWord? "true" (bool true) ('t' :: r)
    | 'f' :: r => readWord? "false" (bool false) ('f' :: r)
    | r => readNumber? r

/-- The items of an array up to its end; those read are kept in reverse. -/
def readItems : Nat → List Char → List Json → Option (Json × List Char)
  | 0, _, _ => none
  | fuel + 1, cs, acc =>
    match readValue fuel cs with
    | none => none
    | some (j, r) =>
      match skipBlanks r with
      | ',' :: r => readItems fuel r (j :: acc)
      | ']' :: r => some (array (j :: acc).reverse, r)
      | _ => none

/-- The members of an object up to its end; those read are kept in reverse. -/
def readMembers : Nat → List Char → List (String × Json) → Option (Json × List Char)
  | 0, _, _ => none
  | fuel + 1, cs, acc =>
    match skipBlanks cs with
    | '"' :: r =>
      match readString? r with
      | none => none
      | some (k, r) =>
        match skipBlanks r with
        | ':' :: r =>
          match readValue fuel r with
          | none => none
          | some (j, r) =>
            match skipBlanks r with
            | ',' :: r => readMembers fuel r ((k, j) :: acc)
            | '\x7d' :: r => some (object ((k, j) :: acc).reverse, r)
            | _ => none
        | _ => none
    | _ => none

end

/-- Reads a whole text as one value. -/
def parse? (text : String) : Option Json :=
  let cs := text.toList
  match readValue (cs.length + 1) cs with
  | some (j, r) => if (skipBlanks r).isEmpty then some j else none
  | none => none

end Json

end PythonAudit
