import PythonAudit.Number.Decimal

/-!
# TOML values
-/

namespace PythonAudit

namespace Toml

/-- A TOML value. Of dates and times only their presence matters. -/
inductive Value where
  | string (s : String)
  | integer (n : Int)
  | float (x : Double)
  | bool (b : Bool)
  | time
  | array (items : List Value)
  | table (members : List (String × Value))
deriving Repr, Inhabited

/-- The value of a member of a table. -/
def Value.field? (key : String) : Value → Option Value
  | .table members => (members.find? fun m => m.1 == key).map Prod.snd
  | _ => none

/-- A reader takes a value from the head of a text and gives the rest. -/
abbrev Reader (α : Type) := List Char → Option (α × List Char)

end Toml

end PythonAudit
