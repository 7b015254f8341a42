/-!
# Binary floating-point numbers

`Double` is a 64-bit floating-point number, kept as its bits. Every finite one is a whole number of
units of `2 ^ (-1074)`, so sums and quotients are found exactly in natural numbers and rounded once,
a half going to the even neighbour.

* `Double.magnitude` is the number without its sign bit; greater magnitudes are greater numbers;
* `Double.units` is the absolute value in units;
* `Double.roundUnits` is the magnitude nearest to a quotient of units.
-/

namespace PythonAudit

/-- A quotient rounded to the nearest natural number, a half to the even one. -/
def roundDiv (num den : Nat) : Nat :=
  let q := num / den
  let r := num % den
  if den < 2 * r || (2 * r == den && q % 2 == 1) then q + 1 else q

/-- A 64-bit binary floating-point number. -/
structure Double where
  bits : UInt64
deriving DecidableEq, Repr, Inhabited

namespace Double

/-- The number of fractions of one exponent. -/
abbrev fractions : Nat := Nat.pow 2 52

/-- The magnitude of the infinities. -/
abbrev infiniteMagnitude : Nat := 2047 * fractions

/-- Units in the number one. -/
abbrev one : Nat := Nat.pow 2 1074

/-! ### Parts -/

/-- The sign bit. -/
def negative (x : Double) : Bool := Nat.pow 2 63 ≤ x.bits.toNat

/-- The bits without the sign. -/
def magnitude (x : Double) : Nat := x.bits.toNat % Nat.pow 2 63

/-- The number with a given sign and magnitude. -/
def ofParts (negative : Bool) (magnitude : Nat) : Double :=
  ⟨UInt64.ofNat (if negative then magnitude + Nat.pow 2 63 else magnitude)⟩

/-- Zero without a sign. -/
def zero : Double := ofParts false 0

/-- Zero with a sign. -/
def negativeZero : Double := ofParts true 0

/-- The positive infinity. -/
def infinity : Double := ofParts false infiniteMagnitude

/-- A value that is no number. -/
def notANumber : Double := ofParts false (infiniteMagnitude + Nat.pow 2 51)

/-- The value is no number. -/
def isNaN (x : Double) : Bool := infiniteMagnitude < x.magnitude

/-- The value is an infinity. -/
def isInfinite (x : Double) : Bool := x.magnitude == infiniteMagnitude

/-- The value is a number and no infinity. -/
def isFinite (x : Double) : Bool := x.magnitude < infiniteMagnitude

/-- The units of a magnitude. -/
def unitsOf (magnitude : Nat) : Nat :=
  if magnitude / fractions = 0 then magnitude
  else (fractions + magnitude % fractions) * Nat.pow 2 (magnitude / fractions - 1)

/-- The absolute value in units. -/
def units (x : Double) : Nat := unitsOf x.magnitude

/-- The value in units. -/
def signedUnits (x : Double) : Int :=
  if x.negative then -(x.units : Int) else x.units

/-! ### Rounding -/

/-- The magnitude nearest to a quotient of units. -/
def roundUnits (num den : Nat) : Nat :=
  let shift := (num / den).log2 - 52
  min infiniteMagnitude (shift * fractions + roundDiv num (den * Nat.pow 2 shift))

/-- The number nearest to a quotient. -/
def ofRatio (num den : Nat) : Double := ofParts false (roundUnits (num * one) den)

/-- The number nearest to a natural number. -/
def ofNat (n : Nat) : Double := ofRatio n 1

/-! ### Arithmetic -/

/-- The number with the other sign. -/
def neg (x : Double) : Double := ofParts (!x.negative) x.magnitude

/-- The sum, rounded. -/
def add (x y : Double) : Double :=
  if x.isNaN || y.isNaN then notANumber
  else if x.isInfinite then
    if y.isInfinite && x.negative != y.negative then notANumber else x
  else if y.isInfinite then y
  else
    let s := x.signedUnits + y.signedUnits
    if s = 0 then ofParts (x.negative && y.negative) 0
    else ofParts (s < 0) (roundUnits s.natAbs 1)

/-- The quotient by a positive natural number, rounded. -/
def divNat (x : Double) (n : Nat) : Double :=
  if x.isFinite then ofParts x.negative (roundUnits x.units n) else x

/-- The sum of several numbers, from the first to the last. -/
def sum (xs : List Double) : Double := xs.foldl add negativeZero

/-! ### Order -/

/-- A whole number that grows with the value; a zero with a sign comes before the other zero. -/
def rank (x : Double) : Int :=
  if x.negative then -(x.magnitude : Int) - 1 else x.magnitude

/-- The value is greater than zero. -/
def isPositive (x : Double) : Bool := !x.isNaN && !x.negative && 0 < x.magnitude

/-- The value is zero, whatever its sign. -/
def isZero (x : Double) : Bool := x.magnitude == 0

/-- One number is less than another. -/
def lt (x y : Double) : Bool :=
  !x.isNaN && !y.isNaN && x.rank < y.rank && !(x.isZero && y.isZero)

/-! ### The machine's numbers -/

/-- The machine's number with the same bits. -/
def toFloat (x : Double) : Float := Float.ofBits x.bits

/-- The bits of a machine's number. -/
def ofFloat (f : Float) : Double := ⟨f.toBits⟩

end Double

end PythonAudit
