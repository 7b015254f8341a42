/-!
# Escapes in string literals

`escape?` reads one escape after its backslash and `unescape` replaces every escape of a text. A
backslash that starts no escape stands for itself, and so do the characters after it.
-/

namespace PythonAudit

namespace Literal

/-- The value of a hexadecimal digit in either case. -/
def hexDigit? (c : Char) : Option Nat :=
  if '0' ≤ c && c ≤ '9' then some (c.toNat - '0'.toNat)
  else if 'a' ≤ c && c ≤ 'f' then some (c.toNat - 'a'.toNat + 10)
  else if 'A' ≤ c && c ≤ 'F' then some (c.toNat - 'A'.toNat + 10)
  else none

/-- The value of an octal digit. -/
def octalDigit? (c : Char) : Option Nat :=
  if '0' ≤ c && c ≤ '7' then some (c.toNat - '0'.toNat) else none

/-- The number that some digits write in a base, most significant digit first. -/
def ofDigits (base : Nat) (ds : List Nat) : Nat :=
  ds.foldl (fun n d => n * base + d) 0

/-- The values of the digits at the head of a text, at most `limit` of them. -/
def leadingDigits (digit? : Char → Option Nat) (limit : Nat) (cs : List Char) : List Nat :=
  (cs.take limit |>.map digit?).takeWhile Option.isSome |>.reduceOption

/-- The character with a given code, if there is one. -/
def charOfCode? (n : Nat) : Option Char :=
  if n.isValidChar then some (Char.ofNat n) else none

/-- The character that exactly `count` hexadecimal digits name. -/
def hexEscape? (count : Nat) (cs : List Char) : Option Char :=
  let ds := leadingDigits hexDigit? count cs
  if ds.length = count then charOfCode? (ofDigits 16 ds) else none

/-- The character that a single letter or sign stands for after a backslash. -/
def letterEscape? : Char → Option Char
  | 'n' => some '\n'
  | 'r' => some '\r'
  | 't' => some '\t'
  | 'a' => some '\x07'
  | 'b' => some '\x08'
  | 'f' => some '\x0c'
  | 'v' => some '\x0b'
  | '\\' => some '\\'
  | '\'' => some '\''
  | '"' => some '"'
  | _ => none

/-- The escape at the head of the text after a backslash: the characters it stands for and how many
characters it takes. A line end stands for nothing. -/
def escape? : List Char → Option (List Char × Nat)
  | [] => none
  | c :: r =>
    if c = '\n' then some ([], 1)
    else if c = 'x' then (hexEscape? 2 r).map fun d => ([d], 3)
    else if c = 'u' then (hexEscape? 4 r).map fun d => ([d], 5)
    else if c = 'U' then (hexEscape? 8 r).map fun d => ([d], 9)
    else
      match leadingDigits octalDigit? 3 (c :: r) with
      | [] => (letterEscape? c).map fun d => ([d], 1)
      | ds => (charOfCode? (ofDigits 8 ds)).map fun d => ([d], ds.length)

/-- Replaces every escape of a text by what it stands for. -/
def unescape : List Char → List Char
  | [] => []
  | c :: r =>
    if c = '\\' then
      match escape? r with
      | some (ds, n) => ds ++ unescape (r.drop n)
      | none => '\\' :: unescape r
    else c :: unescape r
termination_by cs => cs.length
decreasing_by all_goals (simp only [List.length_cons, List.length_drop]; omega)

end Literal

end PythonAudit
