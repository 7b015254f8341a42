import PythonAudit.Toml.Number

/-!
# TOML documents

Tables are built from keys with dots and from headers. `Item.table` remembers how a table came
about: it is `implicit` while only its parts have been named, and `dotted` when keys with dots made
it. A table is defined once: neither a header nor a key with dots may define it again.
-/

namespace PythonAudit

namespace Toml

/-- What stands under a key while a document is read. The tables of an array are kept newest
first. -/
inductive Item where
  | value (v : Value)
  | table (implicit dotted : Bool) (entries : List (String × Item))
  | tables (all : List (List (String × Item)))
deriving Inhabited

/-- The entries of a table under construction. -/
abbrev Entries := List (String × Item)

/-! ### Building tables -/

/-- What stands under a key. -/
def Entries.find? (es : Entries) (key : String) : Option Item :=
  (List.find? (fun e : String × Item => e.1 == key) es).map Prod.snd

/-- Puts something under a key, in the place of what stood there. -/
def Entries.put (key : String) (item : Item) : Entries → Entries
  | [] => [(key, item)]
  | (k, i) :: es => if k = key then (k, item) :: es else (k, i) :: Entries.put key item es

/-- Changes the table at the end of a path; `change` is told whether keys with dots made that table.
Tables on the way are made when they are not there. -/
def descend (dotted : Bool) (change : Bool → Entries → Option Entries) :
    List String → Bool → Entries → Option Entries
  | [], made, es => change made es
  | k :: ks, _, es =>
    match es.find? k with
    | none =>
      (descend dotted change ks dotted []).map fun inner => es.put k (.table true dotted inner)
    | some (.value _) => none
    | some (.tables []) => none
    | some (.tables (t :: ts)) =>
      (descend dotted change ks false t).map fun t => es.put k (.tables (t :: ts))
    | some (.table implicit made inner) =>
      if dotted && !implicit then none
      else (descend dotted change ks made inner).map fun inner =>
        es.put k (.table implicit made inner)

/-- The parts of a key before the last one, and the last one. -/
def splitKey (key : List String) : List String × String := (key.dropLast, key.getLastD "")

/-- Adds a value under a key with dots. -/
def addValue (key : List String) (v : Value) (es : Entries) : Option Entries :=
  let (path, last) := splitKey key
  descend true (fun made inner =>
    if made == path.isEmpty || (inner.find? last).isSome then none
    else some (inner.put last (.value v))) path false es

/-- Defines the table of a header. -/
def openTable (path : List String) (es : Entries) : Option Entries :=
  let (parents, last) := splitKey path
  descend false (fun _ inner =>
    match inner.find? last with
    | none => some (inner.put last (.table false false []))
    | some (.table true false t) => some (inner.put last (.table false false t))
    | _ => none) parents false es

/-- Adds a table to the array of tables of a header. -/
def openArray (path : List String) (es : Entries) : Option Entries :=
  let (parents, last) := splitKey path
  descend false (fun _ inner =>
    match inner.find? last with
    | none => some (inner.put last (.tables [[]]))
    | some (.tables ts) => some (inner.put last (.tables ([] :: ts)))
    | _ => none) parents false es

mutual

/-- The value of what stands under a key. -/
def Item.toValue : Item → Value
  | .value v => v
  | .table _ _ es => .table (membersOf es)
  | .tables ts => .array (tableValues ts).reverse

/-- The members of a finished table. -/
def membersOf : List (String × Item) → List (String × Value)
  | [] => []
  | (k, i) :: es => (k, i.toValue) :: membersOf es

/-- The values of finished tables. -/
def tableValues : List (List (String × Item)) → List Value
  | [] => []
  | t :: ts => .table (membersOf t) :: tableValues ts

end

/-! ### Values -/

/-- A truth value. -/
def bool? : Reader Value
  | 't' :: 'r' :: 'u' :: 'e' :: r => some (.bool true, r)
  | 'f' :: 'a' :: 'l' :: 's' :: 'e' :: r => some (.bool false, r)
  | _ => none

/-- A value that is no array and no table. -/
def scalar? (cs : List Char) : Option (Value × List Char) :=
  match cs with
  | [] => none
  | c :: _ =>
    if c = '"' || c = '\'' then (string? cs).map fun (s, r) => (.string s, r)
    else if c = 't' || c = 'f' then bool? cs
    else
      match time? cs with
      | some v => some v
      | none =>
        match float? cs with
        | some v => some v
        | none => integer? cs

mutual

/-- A value at the head of a text. -/
def readValue : Nat → List Char → Option (Value × List Char)
  | 0, _ => none
  | fuel + 1, cs =>
    match cs with
    | '[' :: r => readItems fuel r []
    | '\x7b' :: r =>
      match skipBlanks r with
      | '\x7d' :: r => some (.table [], r)
      | r => readMembers fuel r []
    | cs => scalar? cs

/-- The items of an array up to its end; those read are kept in reverse. -/
def readItems : Nat → List Char → List Value → Option (Value × List Char)
  | 0, _, _ => none
  | fuel + 1, cs, acc =>
    match skipLines cs.length cs with
    | ']' :: r => some (.array acc.reverse, r)
    | cs =>
      match readValue fuel cs with
      | none => none
      | some (v, r) =>
        match skipLines r.length r with
        | ',' :: r => readItems fuel r (v :: acc)
        | ']' :: r => some (.array (v :: acc).reverse, r)
        | _ => none

/-- The members of a table in braces up to its end. -/
def readMembers : Nat → List Char → Entries → Option (Value × List Char)
  | 0, _, _ => none
  | fuel + 1, cs, es =>
    match key? fuel cs with
    | some (k, '=' :: r) =>
      match readValue fuel (skipBlanks r) with
      | none => none
      | some (v, r) =>
        match addValue k v es with
        | none => none
        | some es =>
          match skipBlanks r with
          | ',' :: r => readMembers fuel r es
          | '\x7d' :: r => some (.table (membersOf es), r)
          | _ => none
    | _ => none

end

/-! ### Documents -/

/-- A document under construction: what was read, and the table that values go into. -/
structure Draft where
  entries : Entries := []
  path : List String := []
deriving Inhabited

/-- Adds a value to the current table. -/
def Draft.add (d : Draft) (key : List String) (v : Value) : Option Draft :=
  (descend false (fun _ inner => addValue key v inner) d.path false d.entries).map fun es =>
    { d with entries := es }

/-- The rest of a header after its opening bracket. -/
def readHeader (d : Draft) (cs : List Char) : Option (Draft × List Char) := do
  let (path, r) ← key? (cs.length + 1) cs
  match r with
  | ']' :: r => return ({ entries := ← openTable path d.entries, path }, r)
  | _ => none

/-- The rest of a header of an array after its opening brackets. -/
def readArrayHeader (d : Draft) (cs : List Char) : Option (Draft × List Char) := do
  let (path, r) ← key? (cs.length + 1) cs
  match r with
  | ']' :: ']' :: r => return ({ entries := ← openArray path d.entries, path }, r)
  | _ => none

/-- A key with its value. -/
def readPair (d : Draft) (cs : List Char) : Option (Draft × List Char) := do
  let (key, r) ← key? (cs.length + 1) cs
  match r with
  | '=' :: r =>
    let (v, r) ← readValue (r.length + 1) (skipBlanks r)
    return (← d.add key v, r)
  | _ => none

/-- Reads the lines of a document. -/
def readLines : Nat → List Char → Draft → Option Draft
  | 0, _, _ => none
  | fuel + 1, cs, d =>
    match skipLines cs.length cs with
    | [] => some d
    | cs =>
      let line :=
        match cs with
        | '[' :: '[' :: r => readArrayHeader d r
        | '[' :: r => readHeader d r
        | r => readPair d r
      match line with
      | none => none
      | some (d, r) =>
        match finishLine? r with
        | none => none
        | some r => readLines fuel r d

/-- Reads a document. A mark of the byte order at the start is passed. -/
def parse? (text : String) : Option Value :=
  let cs :=
    match text.toList with
    | '\uFEFF' :: r => r
    | cs => cs
  (readLines (cs.length + 1) cs {}).map fun d => .table (membersOf d.entries)

end Toml

end PythonAudit
