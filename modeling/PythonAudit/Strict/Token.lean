import PythonAudit.Number.Decimal

/-!
# Tokens of Python 3

* `StringKind` says which letters stand before a string, in either order and case;
* `Token` is a token without its place, and `Token.written` is its form in messages;
* `Spanned` is a token with the byte offsets of its start and stop.
-/

namespace PythonAudit

namespace Strict

/-- What the letters before a string say. -/
structure StringKind where
  raw : Bool := false
  bytes : Bool := false
  format : Bool := false
  unicode : Bool := false
deriving DecidableEq, Repr, Inhabited

namespace StringKind

/-- The kind that one or two letters name. -/
def ofLetters? (cs : List Char) : Option StringKind :=
  match cs.map Char.toLower with
  | [] => some {}
  | ['r'] => some { raw := true }
  | ['b'] => some { bytes := true }
  | ['f'] => some { format := true }
  | ['u'] => some { unicode := true }
  | ['r', 'b'] => some { raw := true, bytes := true }
  | ['b', 'r'] => some { raw := true, bytes := true }
  | ['r', 'f'] => some { raw := true, format := true }
  | ['f', 'r'] => some { raw := true, format := true }
  | _ => none

/-- The letters that name a kind. -/
def letters (k : StringKind) : String :=
  (if k.raw then "r" else "") ++ (if k.bytes then "b" else "") ++ (if k.format then "f" else "") ++
    (if k.unicode then "u" else "")

end StringKind

/-- A token. Keywords are words, and operators and brackets are signs. -/
inductive Token where
  | name (text : String)
  | word (text : String)
  | sign (text : String)
  | integer (value : Nat)
  | float (value : Double)
  | imaginary (value : Double)
  | string (body : String) (kind : StringKind) (triple : Bool)
  | newline
  | indent
  | dedent
deriving DecidableEq, Repr, Inhabited

/-- Text in single quotes. -/
def quoted (text : String) : String := "'" ++ text ++ "'"

/-- The form of a token in messages. -/
def Token.written : Token → String
  | .name text => quoted text
  | .word text => quoted text
  | .sign text => quoted text
  | .integer value => quoted (Nat.repr value)
  | .float value => quoted (plainLayout.write value)
  | .imaginary value => "0j" ++ plainLayout.write value
  | .string body kind triple =>
    let quotes := if triple then "\"\"\"" else "\""
    kind.letters ++ quotes ++ body ++ quotes
  | .newline => "Newline"
  | .indent => "Indent"
  | .dedent => "Dedent"

/-- A token with the byte offsets of its start and stop. -/
structure Spanned where
  token : Token
  start : Nat
  stop : Nat
deriving DecidableEq, Repr, Inhabited

/-- The words that are no names. -/
def keywords : List String :=
  ["False", "None", "True", "and", "as", "assert", "async", "await", "break", "case", "class",
    "continue", "def", "del", "elif", "else", "except", "finally", "for", "from", "global", "if",
    "import", "in", "is", "lambda", "match", "nonlocal", "not", "or", "pass", "raise", "return",
    "try", "type", "while", "with", "yield"]

/-- The words that are names wherever they do not start a statement of their own. -/
def softKeywords : List String := ["match", "case", "type"]

end Strict

end PythonAudit
