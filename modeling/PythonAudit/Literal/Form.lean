import PythonAudit.Literal.Escape

/-!
# Forms of string literals

The letters before the opening quote of a literal decide its `Form`, and the form decides what the
text between the quotes denotes.
-/

namespace PythonAudit

namespace Literal

/-- What the letters before the opening quote say. -/
structure Form where
  raw : Bool := false
  bytes : Bool := false
  format : Bool := false
deriving DecidableEq, Repr, Inhabited

namespace Form

/-- The form with one more letter before the quote, whatever its case. -/
def addLetter (f : Form) (c : Char) : Form :=
  match c.toLower with
  | 'r' => { f with raw := true }
  | 'b' => { f with bytes := true }
  | 'f' => { f with format := true }
  | _ => f

/-- The form of a literal with the given opening, such as `rb"""`. -/
def ofOpening (opening : String) : Form :=
  (opening.toList.takeWhile fun c => c != '\'' && c != '"').foldl addLetter {}

/-- The text that the characters between the quotes denote. -/
def decode (f : Form) (body : String) : String :=
  if f.raw then body else String.ofList (unescape body.toList)

end Form

/-- The text without its escapes; nothing when it has no backslash. -/
def unescape? (text : String) : Option String :=
  if text.toList.contains '\\' then some (String.ofList (unescape text.toList)) else none

/-! ### Doubled braces -/

/-- Writes every doubled occurrence of a character once, from left to right. -/
def undouble (x : Char) : List Char → List Char
  | [] => []
  | [c] => [c]
  | c :: d :: r => if c = x && d = x then x :: undouble x r else c :: undouble x (d :: r)

/-- The body of a format segment with doubled braces written once. -/
def undoubleBraces (text : String) : String :=
  String.ofList (undouble '\x7d' (undouble '\x7b' text.toList))

end Literal

end PythonAudit
