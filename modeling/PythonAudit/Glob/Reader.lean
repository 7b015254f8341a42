import PythonAudit.Glob.Pattern

/-!
# Reading glob patterns

A pattern is read in two steps. Its characters make symbols: a backslash takes the meaning from the
character after it, and square brackets hold a class. The symbols make parts: two stars between
slashes are one part, and braces must be closed. A pattern that breaks a rule is no pattern.
-/

namespace PythonAudit

namespace Glob

/-! ### Symbols -/

/-- A symbol of a pattern. -/
inductive Symbol where
  | char (c : Char)
  | slash
  | question
  | star
  | comma
  | openBrace
  | closeBrace
  | group (negated : Bool) (ranges : List (UInt8 × UInt8))
deriving Repr, Inhabited

/-- A class of characters as far as it is read. -/
structure Group where
  /-- The class starts with a mark that turns it around. -/
  negated : Bool := false
  /-- The ranges, the last one first. -/
  ranges : List (Char × Char) := []
  /-- A dash was read that may make a range. -/
  dash : Bool := false
deriving Repr, Inhabited

/-- The ranges of bytes that two characters with a dash between them stand for. -/
def byteRanges (lo hi : Char) : List (UInt8 × UInt8) :=
  let los := String.utf8EncodeChar lo
  let his := String.utf8EncodeChar hi
  if lo = hi then los.map fun b => (b, b)
  else
    los.dropLast.map (fun b => (b, b))
      ++ [(los.getLast?.getD 0, his.head?.getD 0)]
      ++ his.tail.map (fun b => (b, b))

/-- Adds a character to a class: after a dash it ends a range, which must not run backwards. -/
def Group.add? (g : Group) (c : Char) : Option Group :=
  match g.dash, g.ranges with
  | true, (lo, _) :: r =>
    if c < lo then none else some { g with ranges := (lo, c) :: r, dash := false }
  | _, r => some { g with ranges := (c, c) :: r, dash := false }

/-- The symbol of a class that ends; a dash at its end stands for itself. -/
def Group.close (g : Group) : Symbol :=
  let ranges := if g.dash then ('-', '-') :: g.ranges else g.ranges
  .group g.negated (ranges.reverse.flatMap fun r => byteRanges r.1 r.2)

/-- What the next character belongs to. -/
inductive Mode where
  | plain
  | escaped
  | opened
  | inside (g : Group)

/-- The symbol of a character outside a class. -/
def symbol (c : Char) : Symbol :=
  match c with
  | '/' => .slash
  | '?' => .question
  | '*' => .star
  | ',' => .comma
  | '\x7b' => .openBrace
  | '\x7d' => .closeBrace
  | c => .char c

/-- What a character inside a class leads to. -/
def Group.step? (g : Group) (c : Char) : Option (Symbol ⊕ Group) :=
  if c = ']' && !g.ranges.isEmpty then some (.inl g.close)
  else if c = '-' && !g.ranges.isEmpty && !g.dash then some (.inr { g with dash := true })
  else (g.add? c).map .inr

/-- The symbols of a pattern. -/
def symbols? : Mode → List Char → Option (List Symbol)
  | .plain, [] => some []
  | _, [] => none
  | .plain, c :: r =>
    if c = '\\' then symbols? .escaped r
    else if c = '[' then symbols? .opened r
    else (symbols? .plain r).map (symbol c :: ·)
  | .escaped, c :: r => (symbols? .plain r).map (.char c :: ·)
  | .opened, c :: r =>
    if c = '!' || c = '^' then symbols? (.inside { negated := true }) r
    else
      match ({ } : Group).step? c with
      | some (.inr g) => symbols? (.inside g) r
      | some (.inl s) => (symbols? .plain r).map (s :: ·)
      | none => none
  | .inside g, c :: r =>
    match g.step? c with
    | some (.inr h) => symbols? (.inside h) r
    | some (.inl s) => (symbols? .plain r).map (s :: ·)
    | none => none

/-! ### Parts -/

/-- Braces that are open: what was read before them, and their branches that are finished, the last
ones first. -/
structure Frame where
  before : List Part
  branches : List (List Part)

/-- The parts read so far. -/
structure Draft where
  /-- The open braces, the innermost first. -/
  frames : List Frame := []
  /-- The parts of the branch at hand, the last one first. -/
  parts : List Part := []
  /-- The character before the next symbol. -/
  last : Option Char := none

/-- Adds a part that ends with the character. -/
def Draft.push (d : Draft) (p : Part) (c : Char) : Draft :=
  { d with parts := p :: d.parts, last := some c }

/-- Two stars that are no whole component. -/
def Draft.pushStars (d : Draft) : Draft :=
  { d with parts := .many :: .many :: d.parts, last := some '*' }

/-- Two stars may be a whole component after what was read. -/
def Draft.atComponent (d : Draft) : Bool :=
  d.last == some '/' || (!d.frames.isEmpty && (d.last == some ',' || d.last == some '\x7b'))

/-- Puts a part for whole components in place of the slash before it; next to another one it adds
nothing. -/
def Draft.widen (d : Draft) (p : Part) (c : Char) : Draft :=
  match d.parts with
  | .leading :: r => { d with parts := .leading :: r, last := some c }
  | .trailing :: r => { d with parts := .trailing :: r, last := some c }
  | _ :: r => { d with parts := p :: r, last := some c }
  | [] => { d with parts := [p], last := some c }

/-- Opens braces. -/
def Draft.openBrace (d : Draft) : Draft :=
  { frames := ⟨d.parts, []⟩ :: d.frames, parts := [], last := some '\x7b' }

/-- Goes on to the next branch; outside braces a comma is a character. -/
def Draft.comma (d : Draft) : Draft :=
  match d.frames with
  | [] => d.push (.char ',') ','
  | f :: fs =>
    { frames := { f with branches := d.parts.reverse :: f.branches } :: fs
      parts := []
      last := some ',' }

/-- Closes braces. -/
def Draft.closeBrace? (d : Draft) : Option Draft :=
  match d.frames with
  | [] => none
  | f :: fs =>
    let branches := (d.parts.reverse :: f.branches).reverse
    some { frames := fs, parts := .choice branches :: f.before, last := some '\x7d' }

/-- The parts that symbols make. -/
def parts? (d : Draft) : List Symbol → Option (List Part)
  | [] => if d.frames.isEmpty then some d.parts.reverse else none
  | .star :: .star :: .slash :: r =>
    if d.parts.isEmpty then parts? (d.push .leading '/') r
    else if d.atComponent then parts? (d.widen .between '/') r
    else parts? (d.pushStars.push (.char '/') '/') r
  | .star :: .star :: r =>
    let ends := r.isEmpty || (!d.frames.isEmpty && (r.head?.any fun
      | .comma | .closeBrace => true
      | _ => false))
    if d.parts.isEmpty && r.isEmpty then parts? (d.push .leading '*') r
    else if !d.parts.isEmpty && d.atComponent && ends then parts? (d.widen .trailing '*') r
    else parts? d.pushStars r
  | .star :: r => parts? (d.push .many '*') r
  | .question :: r => parts? (d.push .any '?') r
  | .slash :: r => parts? (d.push (.char '/') '/') r
  | .char c :: r => parts? (d.push (.char c) c) r
  | .group negated ranges :: r => parts? (d.push (.oneOf negated ranges) ']') r
  | .openBrace :: r => parts? d.openBrace r
  | .comma :: r => parts? d.comma r
  | .closeBrace :: r => d.closeBrace?.bind fun d => parts? d r

/-- The parts of a pattern. -/
def read? (pattern : String) : Option (List Part) :=
  (symbols? .plain pattern.toList).bind (parts? {})

end Glob

/-- A set of patterns. -/
abbrev Patterns := List (List Glob.Part)

namespace Patterns

/-- The set of the texts that are patterns. -/
def ofTexts (texts : List String) : Patterns := texts.filterMap Glob.read?

/-- One of the patterns matches the path. -/
def matchesPath (set : Patterns) (path : String) : Bool :=
  set.any fun g => Glob.matchBytes g (Text.encode path.toList)

end Patterns

end PythonAudit
