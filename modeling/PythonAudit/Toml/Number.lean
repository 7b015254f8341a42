import PythonAudit.Toml.Text

/-!
# Numbers and times of TOML
-/

namespace PythonAudit

namespace Toml

open Literal

/-! ### Digits -/

/-- Digits with single underscores between them, at least one: the digits and the rest. -/
def digits? (isDigit : Char → Bool) : Reader (List Char)
  | [] => none
  | c :: r =>
    if isDigit c then
      match r with
      | '_' :: r => (digits? isDigit r).map fun (ds, r) => (c :: ds, r)
      | r =>
        match digits? isDigit r with
        | some (ds, r) => some (c :: ds, r)
        | none => if r.head?.any isDigit then none else some ([c], r)
    else none

/-- The number that decimal digits write. -/
def decimalValue (ds : List Char) : Nat := ofDigits 10 (ds.map fun c => c.toNat - '0'.toNat)

/-- A sign, if there is one. -/
def sign : List Char → Option Bool × List Char
  | '-' :: r => (some true, r)
  | '+' :: r => (some false, r)
  | r => (none, r)

/-- The digits of a decimal integer: no zero comes first unless it is alone. -/
def wholeDigits? (cs : List Char) : Option (List Char × List Char) :=
  match cs with
  | '0' :: r => some (['0'], r)
  | r => digits? Char.isDigit r

/-! ### Integers and floats -/

/-- An integer that fits into 64 bits with a sign. -/
def bounded (n : Int) : Option Value :=
  if -9223372036854775808 ≤ n && n ≤ 9223372036854775807 then some (.integer n) else none

/-- An integer in a base that is not ten. -/
def radixInteger? (base : Nat) (digit? : Char → Option Nat) : Reader Value := fun cs => do
  let (ds, r) ← digits? (fun c => (digit? c).any (· < base)) cs
  return (← bounded (ofDigits base (ds.filterMap digit?)), r)

/-- An integer. -/
def integer? : Reader Value
  | '0' :: 'x' :: r => radixInteger? 16 hexDigit? r
  | '0' :: 'o' :: r => radixInteger? 8 hexDigit? r
  | '0' :: 'b' :: r => radixInteger? 2 hexDigit? r
  | cs => do
    let (negative, r) := sign cs
    let (ds, r) ← wholeDigits? r
    let n : Int := decimalValue ds
    return (← bounded (if negative == some true then -n else n), r)

/-- The digits of an exponent with their sign. -/
def exponent? : Reader Int
  | c :: r =>
    if c = 'e' || c = 'E' then do
      let (negative, r) := sign r
      let (ds, r) ← digits? Char.isDigit r
      let n : Int := decimalValue ds
      return (if negative == some true then -n else n, r)
    else none
  | [] => none

/-- A number with a sign; a positive one that is too great is refused. -/
def signedFloat? (negative : Bool) (d : Decimal) : Option Value :=
  let x := d.toDouble
  if negative then some (.float x.neg) else if x.isInfinite then none else some (.float x)

/-- A float after its sign and whole digits. -/
def floatTail? (negative : Bool) (whole : List Char) : Reader Value
  | '.' :: r => do
    let (part, r) ← digits? Char.isDigit r
    let (e, r) := (exponent? r).getD (0, r)
    if r.head? == some 'e' || r.head? == some 'E' then none
    else return (← signedFloat? negative ⟨decimalValue (whole ++ part), e - part.length⟩, r)
  | r => do
    let (e, r) ← exponent? r
    return (← signedFloat? negative ⟨decimalValue whole, e⟩, r)

/-- The value that is infinite or no number. -/
def special? (negative : Bool) : Reader Value
  | 'i' :: 'n' :: 'f' :: r =>
    some (.float (if negative then Double.infinity.neg else Double.infinity), r)
  | 'n' :: 'a' :: 'n' :: r =>
    some (.float (if negative then Double.notANumber.neg else Double.notANumber), r)
  | _ => none

/-- A float. -/
def float? : Reader Value := fun cs =>
  let (negative, r) := sign cs
  let isNegative := negative == some true
  match special? isNegative r with
  | some v => some v
  | none => do
    let (whole, r) ← wholeDigits? r
    floatTail? isNegative whole r

/-! ### Dates and times -/

/-- A given number of digits. -/
def fixedDigits? (count : Nat) : Reader Nat := fun cs =>
  let ds := cs.take count
  if ds.length = count && ds.all Char.isDigit then some (decimalValue ds, cs.drop count) else none

/-- A given character. -/
def mark? (c : Char) : Reader Unit
  | d :: r => if d = c then some ((), r) else none
  | [] => none

/-- The number of days of a month. -/
def daysOf (year month : Nat) : Nat :=
  if month = 2 then
    if (year % 4 = 0 && year % 100 != 0) || year % 400 = 0 then 29 else 28
  else if month = 4 || month = 6 || month = 9 || month = 11 then 30
  else 31

/-- A date. -/
def date? : Reader Unit := fun cs => do
  let (year, r) ← fixedDigits? 4 cs
  let (_, r) ← mark? '-' r
  let (month, r) ← fixedDigits? 2 r
  let (_, r) ← mark? '-' r
  let (day, r) ← fixedDigits? 2 r
  if 1 ≤ month && month ≤ 12 && 1 ≤ day && day ≤ daysOf year month then some ((), r) else none

/-- Fractions of a second, if there are any. -/
def fraction? : List Char → Option (List Char)
  | '.' :: r =>
    let ds := r.takeWhile Char.isDigit
    if ds.isEmpty then none else some (r.drop ds.length)
  | r => some r

/-- A time of the day. -/
def clock? : Reader Unit := fun cs => do
  let (hour, r) ← fixedDigits? 2 cs
  let (_, r) ← mark? ':' r
  let (minute, r) ← fixedDigits? 2 r
  let (_, r) ← mark? ':' r
  let (second, r) ← fixedDigits? 2 r
  if hour ≤ 23 && minute ≤ 59 && second ≤ 60 then some ((), ← fraction? r) else none

/-- The text after the offset of a time, if there is one. -/
def skipOffset : List Char → Option (List Char)
  | 'Z' :: r => some r
  | 'z' :: r => some r
  | c :: r =>
    if c = '+' || c = '-' then do
      let (hour, r) ← fixedDigits? 2 r
      let (_, r) ← mark? ':' r
      let (minute, r) ← fixedDigits? 2 r
      if hour ≤ 24 && minute ≤ 59 then some r else none
    else some (c :: r)
  | [] => some []

/-- The text after the time that may follow a date. -/
def skipClock : List Char → Option (List Char)
  | c :: r =>
    if c = 'T' || c = 't' then do
      let (_, r) ← clock? r
      skipOffset r
    else if c = ' ' then
      match clock? r with
      | some (_, r) => skipOffset r
      | none => some (c :: r)
    else some (c :: r)
  | [] => some []

/-- A date, a time, or both. -/
def time? : Reader Value := fun cs =>
  match date? cs with
  | some (_, r) => (skipClock r).map (Value.time, ·)
  | none => (clock? cs).map fun (_, r) => (Value.time, r)

end Toml

end PythonAudit
