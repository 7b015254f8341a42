import PythonAudit.Text.Identifier

/-!
# Spellings of tokens

Words, numbers and operators at the head of a text. Each reader takes the longest spelling that its
class admits:

* `wordAt` reads an identifier or keyword;
* `numberAt` reads an integer or a float, in the old and the new spellings of Python;
* `operatorAt` reads an operator or bracket.
-/

namespace PythonAudit

namespace Concrete

open Text

/-- The word at the head of a text. -/
def wordAt (cs : List Char) : Option String :=
  match leadingIdentifier cs with
  | [] => none
  | w => some (String.ofList w)

/-! ### Numbers -/

/-- The length of a run of digits in which each underscore follows a digit. -/
def digitRun (isDigit : Char → Bool) : List Char → Bool → Nat
  | [], _ => 0
  | c :: r, afterDigit =>
    if isDigit c then digitRun isDigit r true + 1
    else if c = '_' && afterDigit then digitRun isDigit r false + 1
    else 0

/-- The length of a run of digits in which each underscore stands before a digit. -/
def markedRun (isDigit : Char → Bool) : List Char → Nat
  | [] => 0
  | '_' :: c :: r => if isDigit c then markedRun isDigit r + 2 else 0
  | c :: r => if isDigit c then markedRun isDigit r + 1 else 0

/-- A hexadecimal digit. -/
def isHexDigit (c : Char) : Bool :=
  c.isDigit || ('a' ≤ c && c ≤ 'f') || ('A' ≤ c && c ≤ 'F')

/-- An octal digit. -/
def isOctalDigit (c : Char) : Bool := '0' ≤ c && c ≤ '7'

/-- A binary digit. -/
def isBinaryDigit (c : Char) : Bool := c == '0' || c == '1'

/-- One more when the text goes on with one of the given characters. -/
def optionalOne (options : List Char) : List Char → Nat
  | [] => 0
  | c :: _ => if options.contains c then 1 else 0

/-- The length of a decimal exponent, zero when there is none. -/
def exponentLength : List Char → Nat
  | [] => 0
  | c :: r =>
    if c = 'e' || c = 'E' then
      let sign := optionalOne ['+', '-'] r
      let digits := digitRun Char.isDigit (r.drop sign) false
      if digits = 0 then 0 else 1 + sign + digits
    else 0

/-- The length of an integer with a radix mark. -/
def radixLength : List Char → Nat
  | '0' :: c :: r =>
    let digits :=
      if c = 'x' || c = 'X' then markedRun isHexDigit r
      else if c = 'o' || c = 'O' then markedRun isOctalDigit r
      else if c = 'b' || c = 'B' then markedRun isBinaryDigit r
      else 0
    if digits = 0 then 0 else 2 + digits + optionalOne ['L', 'l'] (r.drop digits)
  | _ => 0

/-- The length of a decimal integer. -/
def decimalLength (cs : List Char) : Nat :=
  let digits := digitRun Char.isDigit cs false
  if digits = 0 then 0 else digits + optionalOne ['L', 'l', 'j', 'J'] (cs.drop digits)

/-- The length of a float. -/
def floatLength (cs : List Char) : Nat :=
  let whole := digitRun Char.isDigit cs false
  let afterWhole := cs.drop whole
  let body :=
    match afterWhole with
    | '.' :: r =>
      let fraction := digitRun Char.isDigit r false
      if whole = 0 && fraction = 0 then 0
      else whole + 1 + fraction + exponentLength (r.drop fraction)
    | _ =>
      let exponent := exponentLength afterWhole
      if whole = 0 || exponent = 0 then 0 else whole + exponent
  if body = 0 then 0 else body + optionalOne ['j', 'J'] (cs.drop body)

/-- The number at the head of a text: whether it is a float, and its length. -/
def numberAt (cs : List Char) : Option (Bool × Nat) :=
  let integer := max (radixLength cs) (decimalLength cs)
  let float := floatLength cs
  if integer < float then some (true, float)
  else if 0 < integer then some (false, integer)
  else none

/-! ### Operators -/

/-- The operators and brackets, longer spellings first. -/
def operators : List String :=
  ["**=", "//=", ">>=", "<<=",
   "**", "//", ">>", "<<", "<=", ">=", "==", "!=", "<>",
   "+=", "-=", "*=", "/=", "%=", "&=", "|=", "^=", "@=",
   "+", "-", "*", "/", "%", "@", "&", "|", "^", "~", "<", ">",
   "(", ")", "[", "]", "\x7b", "\x7d", ",", ":", ".", ";", "="]

/-- The longest operator at the head of a text; empty when none stands there. -/
def operatorAt (cs : List Char) : String :=
  (operators.find? fun o => o.toList.isPrefixOf cs).getD ""

/-- The operators that combine assignment with an operation. -/
def augmentedOperators : List String :=
  ["+=", "-=", "*=", "/=", "@=", "//=", "%=", "**=", ">>=", "<<=", "&=", "^=", "|="]

end Concrete

end PythonAudit
