import PythonAudit.Number.Double

/-!
# Decimal numbers

* `Decimal` is a whole number times a power of ten;
* `Decimal.toDouble` reads one, `Decimal.shortest` finds the one with the fewest digits that reads
  back;
* `Layout` holds the decisions of a printer, and `Layout.write` prints a number;
* `writeFixed` prints a number with a fixed number of places.
-/

namespace PythonAudit

/-- The number `digits * 10 ^ exponent`. -/
structure Decimal where
  digits : Nat
  exponent : Int
deriving DecidableEq, Repr, Inhabited

namespace Decimal

/-- The number of digits that write a natural number. -/
def digitCount (n : Nat) : Nat := (Nat.toDigits 10 n).length

/-- The value as a quotient of natural numbers. -/
def ratio (d : Decimal) : Nat × Nat :=
  match d.exponent with
  | .ofNat e => (d.digits * Nat.pow 10 e, 1)
  | .negSucc e => (d.digits, Nat.pow 10 (e + 1))

/-- The nearest floating-point number. Beyond the powers of ten that such numbers reach the answer
needs no arithmetic. -/
def toDouble (d : Decimal) : Double :=
  let top := d.exponent + digitCount d.digits
  if d.digits = 0 || top < -400 then Double.zero
  else if 400 < top then Double.infinity
  else Double.ofRatio d.ratio.1 d.ratio.2

/-! ### The fewest digits -/

/-- The power of ten of the leading digit of a positive number of units. -/
def leadingExponent (units : Nat) : Int :=
  (digitCount (units * Nat.pow 10 330 / Double.one) : Int) - 331

/-- Units divided by a power of ten, as a quotient. -/
def scaled (units : Nat) : Int → Nat × Nat
  | .ofNat e => (units, Double.one * Nat.pow 10 e)
  | .negSucc e => (units * Nat.pow 10 (e + 1), Double.one)

/-- The decimal with the given power of ten that is nearest to a number and reads back as it. -/
def onGrid? (x : Double) (exponent : Int) : Option Decimal :=
  let (num, den) := scaled x.units exponent
  let below : Decimal := ⟨num / den, exponent⟩
  let above : Decimal := ⟨num / den + 1, exponent⟩
  let reads (d : Decimal) : Bool := d.toDouble.magnitude == x.magnitude
  if reads below then
    if reads above && den < 2 * (num % den) then some above else some below
  else if reads above then some above
  else none

/-- The first of ever finer grids that has a decimal which reads back. -/
def firstGrid (x : Double) : Nat → Int → Decimal
  | 0, exponent => ⟨(scaled x.units exponent).1 / (scaled x.units exponent).2, exponent⟩
  | n + 1, exponent =>
    match onGrid? x exponent with
    | some d => d
    | none => firstGrid x n (exponent - 1)

/-- Moves zeros at the end of the digits into the power of ten. -/
def trimWith : Nat → Decimal → Decimal
  | 0, d => d
  | n + 1, d =>
    if d.digits % 10 = 0 && d.digits != 0 then trimWith n ⟨d.digits / 10, d.exponent + 1⟩ else d

/-- The decimal with the fewest digits that reads back as a positive number. -/
def shortest (x : Double) : Decimal :=
  if x.magnitude = 0 then ⟨0, 0⟩
  else trimWith 20 (firstGrid x 17 (leadingExponent x.units))

end Decimal

/-! ### Printing -/

/-- The decisions of a printer: which powers of ten of the leading digit are written without an
exponent, whether a whole number keeps a point and a zero, and the sign of a positive exponent. -/
structure Layout where
  positional : Int → Bool
  keepPoint : Bool
  plus : String

namespace Layout

/-- Digits with the point after the first `whole` of them. -/
def point (l : Layout) (digits : String) (whole : Int) : String :=
  let n : Int := digits.length
  if whole ≤ 0 then "0." ++ String.ofList (List.replicate (-whole).toNat '0') ++ digits
  else if n ≤ whole then
    digits ++ String.ofList (List.replicate (whole - n).toNat '0') ++
      (if l.keepPoint then ".0" else "")
  else String.ofList (digits.toList.take whole.toNat) ++ "." ++
    String.ofList (digits.toList.drop whole.toNat)

/-- Digits with an exponent. -/
def scientific (l : Layout) (digits : String) (lead : Int) : String :=
  let mantissa :=
    match digits.toList with
    | c :: d :: r => String.ofList (c :: '.' :: d :: r)
    | cs => String.ofList cs
  mantissa ++ "e" ++ (if lead < 0 then "-" else l.plus) ++ Nat.repr lead.natAbs

/-- Prints the absolute value of a finite number. -/
def writeMagnitude (l : Layout) (x : Double) : String :=
  if x.magnitude = 0 then (if l.keepPoint then "0.0" else "0")
  else
    let d := Decimal.shortest x
    let digits := Nat.repr d.digits
    let lead := d.exponent + digits.length - 1
    if l.positional lead then l.point digits (lead + 1) else l.scientific digits lead

/-- Prints a number. -/
def write (l : Layout) (x : Double) : String :=
  if x.isNaN then "NaN"
  else (if x.negative then "-" else "") ++
    (if x.isInfinite then "inf" else l.writeMagnitude x)

end Layout

/-- Numbers in text: no exponent, and whole numbers without a point. -/
def plainLayout : Layout := ⟨fun _ => true, false, ""⟩

/-- Prints a number with a fixed number of places, rounded from its exact value, a half to the even
digit. -/
def writeFixed (places : Nat) (x : Double) : String :=
  if x.isNaN then "NaN"
  else
    let sign := if x.negative then "-" else ""
    if x.isInfinite then sign ++ "inf"
    else
      let digits := Nat.repr (roundDiv (x.units * Nat.pow 10 places) Double.one)
      let padded := List.replicate (places + 1 - digits.length) '0' ++ digits.toList
      let whole := padded.length - places
      sign ++ String.ofList (padded.take whole) ++
        (if places = 0 then "" else "." ++ String.ofList (padded.drop whole))

end PythonAudit
