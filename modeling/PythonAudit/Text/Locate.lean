import PythonAudit.Text.Basic

/-!
# Lines and columns of byte offsets

`locate` turns a byte offset into a line, counted from one, and a byte column, counted from zero.
The line is looked up among the line feeds of the whole text, and the column is counted from the
last line feed before the offset. An offset beyond the end counts as the end.
-/

namespace PythonAudit

namespace Text

/-- The byte offsets of the line feeds among characters that start at a given offset. -/
def lineFeeds (start : Nat) : List Char → List Nat
  | [] => []
  | c :: r =>
    if c = '\n' then start :: lineFeeds (start + 1) r else lineFeeds (start + c.utf8Size) r

/-- The line that holds a byte, counted from zero. A line feed belongs to the line that it ends. -/
def lineOf (feeds : List Nat) (byte : Nat) : Nat := feeds.findIdx fun feed => byte ≤ feed

/-- The line of an offset, counted from zero. No byte follows the end, so it is on the line of the
last byte, or on a new line when that byte is a line feed. -/
def lineAt (cs : List Char) (offset : Nat) : Nat :=
  if offset = byteSize cs then
    lineOf (lineFeeds 0 cs) (offset - 1) + if cs.getLast? = some '\n' then 1 else 0
  else lineOf (lineFeeds 0 cs) offset

/-- The characters before an offset and those that are passed already, the last one first. An offset
inside a character has none. -/
def before? (passed : List Char) : List Char → Nat → Option (List Char)
  | _, 0 => some passed
  | [], _ + 1 => none
  | c :: r, n + 1 =>
    if n + 1 < c.utf8Size then none else before? (c :: passed) r (n + 1 - c.utf8Size)

/-- The offset after the last line feed of some characters, given with the last one first. -/
def lineStart (passed : List Char) : Nat := byteSize (passed.dropWhile (· != '\n'))

/-- The line and column of a byte offset. The column of an offset inside a character is counted from
the start of the text. -/
def locate (text : String) (offset : Nat) : Nat × Nat :=
  let cs := text.toList
  if cs.isEmpty then (1, 0)
  else
    let place := min offset (byteSize cs)
    (lineAt cs place + 1, place - ((before? [] cs place).map lineStart).getD 0)

end Text

end PythonAudit
