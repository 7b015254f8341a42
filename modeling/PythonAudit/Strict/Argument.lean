import PythonAudit.Strict.Fault

/-!
# Arguments and parameters

Rules on the order and the names of the arguments of a call, `checkArguments`, and of the parameters
of a function, `Signature.checkOrder` and `Signature.checkNames`.
-/

namespace PythonAudit

namespace Strict

/-! ### Arguments of calls -/

/-- An argument of a call. -/
inductive Argument where
  | positional (start : Nat)
  | keyword (start : Nat) (name : String)
  | unpacked (start : Nat)
  | unpackedKeywords
deriving DecidableEq, Repr, Inhabited

/-- What is known of the arguments before the next one: the names used, and whether a keyword or
unpacked keywords came. -/
structure Seen where
  names : List String := []
  keywords : Bool := false
  unpackedKeywords : Bool := false
deriving DecidableEq, Repr, Inhabited

/-- Takes note of one more argument. -/
def Seen.add (s : Seen) : Argument → Except Located Seen
  | .keyword start name =>
    if s.names.contains name then .error ⟨.repeatedKeyword name, start⟩
    else .ok { s with names := name :: s.names, keywords := true }
  | .unpackedKeywords => .ok { s with keywords := true, unpackedKeywords := true }
  | .positional start => if s.keywords then .error ⟨.positionalAfterKeyword, start⟩ else .ok s
  | .unpacked start => if s.unpackedKeywords then .error ⟨.unpackingAfterKeyword, start⟩ else .ok s

/-- Checks the arguments of a call in their order. -/
def checkArguments (as : List Argument) : Except Located Unit :=
  (as.foldlM Seen.add {}).map fun _ => ()

/-! ### Parameters of functions -/

/-- A parameter: its start, its name, and whether it has a default. -/
structure Parameter where
  start : Nat
  name : String
  defaulted : Bool := false
deriving DecidableEq, Repr, Inhabited

/-- The parameters of a function: those before a slash, those by position, the star with its offset
and the parameter after it, those by keyword alone, and the parameter after two stars. -/
structure Signature where
  positionalOnly : List Parameter := []
  positional : List Parameter := []
  star : Option Nat := none
  rest : Option Parameter := none
  keywordOnly : List Parameter := []
  keywords : Option Parameter := none
deriving DecidableEq, Repr, Inhabited

namespace Signature

/-- The first parameter without a default after one that has a default. -/
def misplaced? : List Parameter → Option Parameter
  | [] => none
  | p :: ps => if p.defaulted then ps.find? fun q => !q.defaulted else misplaced? ps

/-- The offset of a star that nothing follows. -/
def bareStar? (s : Signature) : Option Nat :=
  if s.rest.isNone && s.keywordOnly.isEmpty && s.keywords.isNone then s.star else none

/-- Checks that something follows a star and that defaults come last. -/
def checkOrder (s : Signature) : Except Located Unit :=
  match s.bareStar?, misplaced? (s.positionalOnly ++ s.positional) with
  | some start, _ => .error ⟨.bareStar, start⟩
  | none, some p => .error ⟨.defaultOrder, p.start⟩
  | none, none => .ok ()

/-- The first parameter whose name came before. -/
def repeated? : List Parameter → List String → Option Parameter
  | [], _ => none
  | p :: ps, names => if names.contains p.name then some p else repeated? ps (p.name :: names)

/-- Checks that no name comes twice. -/
def checkNames (s : Signature) : Except Located Unit :=
  let all := s.positionalOnly ++ s.positional ++ s.keywordOnly ++ s.rest.toList ++ s.keywords.toList
  match repeated? all [] with
  | some p => .error ⟨.duplicateParameter p.name, p.start⟩
  | none => .ok ()

end Signature

end Strict

end PythonAudit
