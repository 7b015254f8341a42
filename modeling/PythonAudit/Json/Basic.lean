import PythonAudit.Number.Decimal

/-!
# JSON values
-/

namespace PythonAudit

/-- A JSON value. A number without a sign, a point and an exponent that fits into 64 bits is
`natural`; the members of an object keep their order. -/
inductive Json where
  | null
  | bool (b : Bool)
  | natural (n : Nat)
  | number (x : Double)
  | string (s : String)
  | array (items : List Json)
  | object (members : List (String × Json))
deriving Repr, Inhabited

namespace Json

/-- The value of the last member of an object with a given key. -/
def field? (key : String) : Json → Option Json
  | object members => (members.reverse.find? fun m => m.1 == key).map Prod.snd
  | _ => none

/-- The text of a string. -/
def string? : Json → Option String
  | string s => some s
  | _ => none

/-- The value of a natural number. -/
def natural? : Json → Option Nat
  | natural n => some n
  | _ => none

/-- The value of a number of either kind. -/
def number? : Json → Option Double
  | natural n => some (Double.ofNat n)
  | number x => some x
  | _ => none

/-- A truth value. -/
def bool? : Json → Option Bool
  | bool b => some b
  | _ => none

/-- The items of an array. -/
def array? : Json → Option (List Json)
  | array items => some items
  | _ => none

/-- The values of a record with the given keys: from an object by key, and from an array by place. A
value that is not there is missing; an array must not have more values than there are keys. -/
def record? (keys : List String) : Json → Option (List (Option Json))
  | object members => some (keys.map fun k => (object members).field? k)
  | array items =>
    if items.length ≤ keys.length then
      some ((items.map some) ++ List.replicate (keys.length - items.length) none)
    else none
  | _ => none

/-- A value that may be missing. -/
def orElse? {α : Type} (read : Json → Option α) (usual : α) : Option Json → Option α
  | none => some usual
  | some j => read j

end Json

end PythonAudit
