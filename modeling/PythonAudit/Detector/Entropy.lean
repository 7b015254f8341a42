import PythonAudit.Number.Decimal

/-!
# Entropy of texts

`entropy` is the Shannon entropy of a text in bits per character, and `scored?` compares it with
thresholds. Both are written over an `Arithmetic`, so that they can be run with machine numbers and
read as exact statements. Machine numbers do not add up to the same sum in every order, and the
characters of a text are added up in no fixed order: a `Rearrangement` says which one it is.
-/

namespace PythonAudit

/-- The operations of arithmetic that entropies need. -/
structure Arithmetic (α : Type) where
  ofNat : Nat → α
  neg : α → α
  add : α → α → α
  mul : α → α → α
  div : α → α → α
  log2 : α → α
  lt : α → α → Bool

/-- The machine's floating-point arithmetic. -/
def floatArithmetic : Arithmetic Float where
  ofNat := Float.ofNat
  neg := Float.neg
  add := Float.add
  mul := Float.mul
  div := Float.div
  log2 := Float.log2
  lt := fun a b => a < b

/-- Counts a character once more. -/
def addCount (c : Char) : List (Char × Nat) → List (Char × Nat)
  | [] => [(c, 1)]
  | (d, n) :: r => if d = c then (d, n + 1) :: r else (d, n) :: addCount c r

/-- How often each character of a text occurs, in the order of the first occurrences. -/
def characterCounts (cs : List Char) : List (Char × Nat) :=
  cs.foldl (fun counts c => addCount c counts) []

/-- An order for the elements of a list: each pick is the place of the next one among those that are
left. -/
structure Rearrangement where
  picks : List Nat := []
deriving DecidableEq, Repr, Inhabited

/-- The elements of a list in the order of some picks, and those that are never picked after
them. -/
def pickInOrder {β : Type} : List Nat → List β → List β
  | [], xs => xs
  | k :: ks, xs =>
    match xs[k]? with
    | none => pickInOrder ks xs
    | some x => x :: pickInOrder ks (xs.eraseIdx k)

/-- The elements of a list in an order of their own. -/
def Rearrangement.apply {β : Type} (o : Rearrangement) (xs : List β) : List β :=
  pickInOrder o.picks xs

section

variable {α : Type} (A : Arithmetic α)

/-- What a character that occurs `count` times among `total` adds to the entropy. -/
def entropyTerm (total count : Nat) : α :=
  let p := A.div (A.ofNat count) (A.ofNat total)
  A.mul (A.neg p) (A.log2 p)

/-- The entropy of a text in bits per character, its characters added up in the given order. -/
def entropy (o : Rearrangement) (cs : List Char) : α :=
  if cs.isEmpty then A.ofNat 0
  else
    ((o.apply (characterCounts cs)).map fun p => entropyTerm A cs.length p.2).foldl A.add
      (A.neg (A.ofNat 0))

/-- When a text is suspicious: its least length, the length it has to exceed, the share of the
greatest possible entropy it has to exceed, and the length above which that entropy is taken from
all bytes. -/
structure Thresholds (α : Type) where
  minLength : Nat
  reportLength : Nat
  ratio : α
  wideLength : Nat
deriving DecidableEq, Repr, Inhabited

/-- The greatest entropy to expect of a text of some length: of all bytes, or of the printable
characters. -/
def Thresholds.greatest (t : Thresholds α) (length : Nat) : α :=
  if t.wideLength < length then A.ofNat 8 else A.log2 (A.ofNat 94)

/-- The share of the greatest entropy that a text has. -/
def Thresholds.share (t : Thresholds α) (o : Rearrangement) (cs : List Char) : α :=
  A.div (entropy A o cs) (t.greatest A cs.length)

/-- The share and the entropy of a text that exceeds the thresholds. -/
def Thresholds.scored? (t : Thresholds α) (o : Rearrangement) (cs : List Char) : Option (α × α) :=
  if cs.length < t.minLength then none
  else if A.lt t.ratio (t.share A o cs) && t.reportLength < cs.length then
    some (t.share A o cs, entropy A o cs)
  else none

end

/-- The usual thresholds. -/
def Thresholds.standard : Thresholds Double :=
  { minLength := 20, reportLength := 30, ratio := Double.ofRatio 17 20, wideLength := 50 }

/-- The same thresholds for machine arithmetic. -/
def Thresholds.toFloat (t : Thresholds Double) : Thresholds Float :=
  ⟨t.minLength, t.reportLength, t.ratio.toFloat, t.wideLength⟩

/-- The entropy of a text as a number to print. -/
def textEntropy (text : String) (o : Rearrangement := {}) : Double :=
  Double.ofFloat (entropy floatArithmetic o text.toList)

end PythonAudit
