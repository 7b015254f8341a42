import PythonAudit.Text.Basic

/-!
# Glob patterns

* A pattern is a list of parts.
* `?` takes one byte and `*` any number of them, slashes too; a class takes one byte.
* `**` between slashes stands for whole components, none or more.
* Braces hold choices, which may hold braces again; a choice that says nothing is left out.
* A path is matched as bytes, from its start to its end.
-/

namespace PythonAudit

namespace Glob

/-- A part of a pattern. -/
inductive Part where
  /-- The character itself. -/
  | char (c : Char)
  /-- Any byte. -/
  | any
  /-- Any bytes. -/
  | many
  /-- Any components before the rest of the path. -/
  | leading
  /-- Anything below what comes before. -/
  | trailing
  /-- A slash, or any components between two slashes. -/
  | between
  /-- A byte in one of the ranges, or in none of them. -/
  | oneOf (negated : Bool) (ranges : List (UInt8 × UInt8))
  /-- One of the branches. -/
  | choice (branches : List (List Part))
deriving Repr, Inhabited

/-- The byte of a slash. -/
def slash : UInt8 := 0x2F

/-- The byte of a dot. -/
def dot : UInt8 := 0x2E

/-! ### Matching -/

/-- A list, and the lists that are left when its elements go one after the other. -/
def suffixes {α : Type} : List α → List (List α)
  | [] => [[]]
  | b :: s => (b :: s) :: suffixes s

/-- What follows each slash of a path. -/
def afterSlashes : List UInt8 → List (List UInt8)
  | [] => []
  | b :: s => if b = slash then s :: afterSlashes s else afterSlashes s

/-- What follows a slash at the start of a path. -/
def afterSlash? : List UInt8 → Option (List UInt8)
  | [] => none
  | b :: s => if b = slash then some s else none

/-- A byte lies in one of the ranges. -/
def inRanges (ranges : List (UInt8 × UInt8)) (b : UInt8) : Bool :=
  ranges.any fun r => r.1 ≤ b && b ≤ r.2

mutual

/-- A part that says nothing: braces around nothing. -/
def Part.isBlank : Part → Bool
  | .choice branches => allBranchesBlank branches
  | _ => false

/-- Every part says nothing. -/
def allBlank : List Part → Bool
  | [] => true
  | p :: ps => p.isBlank && allBlank ps

/-- Every branch says nothing. -/
def allBranchesBlank : List (List Part) → Bool
  | [] => true
  | b :: bs => allBlank b && allBranchesBlank bs

end

mutual

/-- A part takes some bytes at the start of a path, and the bytes after them satisfy `next`. -/
def Part.accepts : Part → (List UInt8 → Bool) → List UInt8 → Bool
  | .char c, next, s => (Text.after? (String.utf8EncodeChar c) s).any next
  | .any, next, s => (s.head?.map fun _ => next s.tail).getD false
  | .many, next, s => (suffixes s).any next
  | .leading, next, s => next s || (afterSlashes s).any next
  | .trailing, next, s => (afterSlash? s).any fun r => (suffixes r).any next
  | .between, next, s => (afterSlash? s).any fun r => next r || (afterSlashes r).any next
  | .oneOf negated ranges, next, s =>
    match s with
    | [] => false
    | b :: r => inRanges ranges b != negated && next r
  | .choice branches, next, s =>
    if allBranchesBlank branches then next s else acceptAny branches next s

/-- The parts take some bytes one after the other. -/
def accept : List Part → (List UInt8 → Bool) → List UInt8 → Bool
  | [], next, s => next s
  | p :: ps, next, s => p.accepts (fun r => accept ps next r) s

/-- One of the branches that say something takes some bytes. -/
def acceptAny : List (List Part) → (List UInt8 → Bool) → List UInt8 → Bool
  | [], _, _ => false
  | b :: bs, next, s => (!allBlank b && accept b next s) || acceptAny bs next s

end

/-- A part that is a character. -/
def Part.isChar : Part → Bool
  | .char _ => true
  | _ => false

/-- A part that is the given character. -/
def Part.isThe (c : Char) : Part → Bool
  | .char d => d == c
  | _ => false

/-- The pattern is compared with the whole path or with its end, not with the name of a file. -/
def readsEnd : List Part → Bool
  | .leading :: .many :: r => r.all Part.isChar && r.length != 1
  | .many :: r => r.all Part.isChar && r.length != 1
  | .leading :: r => r.all Part.isChar && r.any (Part.isThe '/')
  | r => r.all Part.isChar

/-- The pattern ends with a dot and asks for the name of a file; a path that ends with a dot has
none. -/
def isNameless (parts : List Part) : Bool := parts.getLast?.any (Part.isThe '.') && !readsEnd parts

/-- A pattern matches a path given as bytes. -/
def matchBytes : List Part → List UInt8 → Bool
  | [.leading], _ => true
  | parts, s => accept parts List.isEmpty s && !isNameless parts

end Glob

end PythonAudit
