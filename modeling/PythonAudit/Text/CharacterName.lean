import PythonAudit.Text.Basic
import PythonAudit.Text.CharacterName.AToB
import PythonAudit.Text.CharacterName.CToD
import PythonAudit.Text.CharacterName.EToK
import PythonAudit.Text.CharacterName.LToN
import PythonAudit.Text.CharacterName.OToZ

/-!
# Names of characters

`isCharacterName` tells whether some character has a given Unicode name. Names are compared loosely:
case, blanks, underscores and hyphens inside words do not matter. The names of ideographs and of
Hangul syllables follow rules; all others are in tables.
-/

namespace PythonAudit

namespace Text

namespace CharacterName

/-! ### Loose spelling -/

/-- A letter or a digit. -/
def isPlain (c : Char) : Bool :=
  ('0' ≤ c && c ≤ '9') || ('a' ≤ c && c ≤ 'z') || ('A' ≤ c && c ≤ 'Z')

/-- A character that does not matter in a name. -/
def isBlank (c : Char) : Bool :=
  c = ' ' || c = '\t' || c = '\n' || c = '\r' || c = '\x0c' || c = '_'

/-- A name without what does not matter in it, after the given character. No name has other
characters than letters, digits and hyphens. -/
def squeeze? (before : Option Char) : List Char → Option (List Char)
  | [] => some []
  | c :: r =>
    if isBlank c then squeeze? (some c) r
    else if c = '-' && before.any isPlain && r.head?.any isPlain then squeeze? (some c) r
    else if isPlain c || c = '-' then (squeeze? (some c) r).map (c.toUpper :: ·)
    else none

/-! ### Tables -/

/-- A name that is being read from a table. -/
structure Cursor where
  /-- The name before it. -/
  before : List Char := []
  /-- How many characters it shares with the name before it. -/
  shared : Nat := 0
  /-- Its other characters, the last one first. -/
  rest : List Char := []
  /-- What the plus signs after it add up to. -/
  extra : Nat := 0

/-- The name. -/
def Cursor.name (c : Cursor) : List Char := c.before.take c.shared ++ c.rest.reverse

/-- A table has the name. -/
def hasName (name : List Char) (c : Cursor) : List Char → Bool
  | [] => c.name == name
  | x :: r =>
    if x = '+' then hasName name { c with extra := c.extra + 26 } r
    else if 'a' ≤ x && x ≤ 'z' then
      c.name == name || hasName name
        { before := c.name, shared := c.extra + (x.toNat - 'a'.toNat) } r
    else hasName name { c with rest := x :: c.rest } r

/-- The table of the names with a first letter. -/
def table (c : Char) : List String :=
  match c with
  | 'A' => namesA | 'B' => namesB | 'C' => namesC | 'D' => namesD | 'E' => namesE | 'F' => namesF
  | 'G' => namesG | 'H' => namesH | 'I' => namesI | 'J' => namesJ | 'K' => namesK | 'L' => namesL
  | 'M' => namesM | 'N' => namesN | 'O' => namesO | 'P' => namesP | 'Q' => namesQ | 'R' => namesR
  | 'S' => namesS | 'T' => namesT | 'U' => namesU | 'V' => namesV | 'W' => namesW | 'X' => namesX
  | 'Y' => namesY | 'Z' => namesZ
  | _ => []

/-! ### Names by rule -/

/-- The ranges of ideographs. -/
def ideographs : List (Nat × Nat) :=
  [(0x3400, 0x4DBF), (0x4E00, 0x9FFF), (0x20000, 0x2A6DF), (0x2A700, 0x2B739), (0x2B740, 0x2B81D),
    (0x2B820, 0x2CEA1), (0x2CEB0, 0x2EBE0), (0x2EBF0, 0x2EE5D), (0x30000, 0x3134A),
    (0x31350, 0x323AF)]

/-- The value of a digit to base sixteen. -/
def digit? (c : Char) : Option Nat :=
  if '0' ≤ c && c ≤ '9' then some (c.toNat - '0'.toNat)
  else if 'A' ≤ c && c ≤ 'F' then some (c.toNat - 'A'.toNat + 10)
  else none

/-- The number of an ideograph, in at most five digits. -/
def isIdeographNumber (digits : List Char) : Bool :=
  digits.length ≤ 5 && match digits.mapM digit? with
    | none => false
    | some ds =>
      let n := ds.foldl (fun n d => 16 * n + d) 0
      ideographs.any fun r => r.1 ≤ n && n ≤ r.2

/-- What follows the longest of the words that a text starts with. -/
def longest? (words : List String) (text : List Char) : Option (List Char) :=
  (words.filterMap fun w => after? w.toList text).foldl (fun best r =>
    match best with
    | none => some r
    | some b => if r.length < b.length then some r else some b) none

/-- The first sounds of a syllable. -/
def leads : List String :=
  ["G", "GG", "N", "D", "DD", "R", "M", "B", "BB", "S", "SS", "", "J", "JJ", "C", "K",
    "T", "P", "H"]

/-- The vowels of a syllable. -/
def vowels : List String :=
  ["A", "AE", "YA", "YAE", "EO", "E", "YEO", "YE", "O", "WA", "WAE", "OE", "YO", "U", "WEO", "WE",
    "WI", "YU", "EU", "YI", "I"]

/-- The last sounds of a syllable. -/
def tails : List String :=
  ["", "G", "GG", "GS", "N", "NJ", "NH", "D", "L", "LG", "LM", "LB", "LS", "LT", "LP", "LH", "M",
    "B", "BS", "S", "SS", "NG", "J", "C", "K", "T", "P", "H"]

/-- A Hangul syllable. -/
def isSyllable (text : List Char) : Bool :=
  (((longest? leads text).bind (longest? vowels)).bind (longest? tails)).any List.isEmpty

/-- A name without what does not matter in it is the name of a character. -/
def isSqueezedName (name : List Char) : Bool :=
  match after? "CJKUNIFIEDIDEOGRAPH".toList name, after? "HANGULSYLLABLE".toList name with
  | some digits, _ => isIdeographNumber digits
  | _, some text => isSyllable text
  | none, none =>
    match name with
    | [] => false
    | c :: _ => hasName name {} ((table c).flatMap String.toList)

end CharacterName

/-- Some character has the given name. -/
def isCharacterName (name : List Char) : Bool :=
  (CharacterName.squeeze? none name).any CharacterName.isSqueezedName

end Text

end PythonAudit
