/-!
# Places in a source text

* `Point` is a row and a byte column, both counted from zero;
* `Extent` is the stretch between two points;
* `Cursor` is a place in a text together with the characters that follow it.

Only the line feed ends a row. Columns count the bytes of the UTF-8 form.
-/

namespace PythonAudit

/-- A place in a text: a row and a byte column in that row, both from zero. -/
structure Point where
  row : Nat
  column : Nat
deriving DecidableEq, Repr, Inhabited

namespace Point

/-- The first place of every text. -/
def origin : Point := ⟨0, 0⟩

/-- The place after one more character. -/
def step (p : Point) (c : Char) : Point :=
  if c = '\n' then ⟨p.row + 1, 0⟩ else ⟨p.row, p.column + c.utf8Size⟩

/-- The place after a run of characters. -/
def stepAll (p : Point) (cs : List Char) : Point :=
  cs.foldl step p

/-- Reading order: by row, then by column. -/
def before (p q : Point) : Bool :=
  p.row < q.row || (p.row == q.row && p.column < q.column)

/-- Reading order or the same place. -/
def notAfter (p q : Point) : Bool :=
  p.row < q.row || (p.row == q.row && p.column ≤ q.column)

@[simp]
theorem stepAll_nil (p : Point) : p.stepAll [] = p := rfl

@[simp]
theorem stepAll_cons (p : Point) (c : Char) (cs : List Char) :
    p.stepAll (c :: cs) = (p.step c).stepAll cs := rfl

end Point

/-- The stretch of text between two points. -/
structure Extent where
  start : Point
  stop : Point
deriving DecidableEq, Repr, Inhabited

/-- One extent lies within another. -/
def Extent.within (inner outer : Extent) : Bool :=
  outer.start.notAfter inner.start && inner.stop.notAfter outer.stop

/-- A place in a text, the number of characters before it, and the characters after it. -/
structure Cursor where
  rest : List Char
  index : Nat
  point : Point
deriving Inhabited

namespace Cursor

/-- The cursor before the first character. -/
def start (cs : List Char) : Cursor := ⟨cs, 0, Point.origin⟩

/-- Passes one character; at the end of the text the cursor stays. -/
def next (k : Cursor) : Cursor :=
  match k.rest with
  | [] => k
  | c :: r => ⟨r, k.index + 1, k.point.step c⟩

/-- Passes the given number of characters. -/
def skip : Nat → Cursor → Cursor
  | 0, k => k
  | n + 1, k => skip n k.next

/-- Passes every character that satisfies a test. -/
def skipWhile (p : Char → Bool) (k : Cursor) : Cursor :=
  k.skip (k.rest.takeWhile p).length

end Cursor

end PythonAudit
