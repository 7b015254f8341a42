/-!
# Characters and bytes

* `byteSize` and `encode` give the bytes of characters in UTF-8;
* `after?` takes a given start off a text, be it of characters or of bytes.
-/

namespace PythonAudit

namespace Text

/-- The number of bytes of some characters. -/
def byteSize (cs : List Char) : Nat := (cs.map Char.utf8Size).foldr (· + ·) 0

/-- The bytes of some characters. -/
def encode (cs : List Char) : List UInt8 := cs.flatMap String.utf8EncodeChar

/-- What follows a given start. -/
def after? {α : Type} [DecidableEq α] : List α → List α → Option (List α)
  | [], s => some s
  | _ :: _, [] => none
  | b :: bs, a :: s => if a = b then after? bs s else none

end Text

end PythonAudit
