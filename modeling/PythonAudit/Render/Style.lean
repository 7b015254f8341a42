/-!
# Styled text

A `Document` is a list of spans, each with or without a `Style`. It is shown plainly, or with the
control sequences of a terminal: the codes of the style, the text, and the code that ends it.
-/

namespace PythonAudit

/-- A colour of a terminal. -/
inductive Colour where
  | red
  | green
  | yellow
  | blue
  | magenta
  | cyan
  | white
  | brightCyan
deriving DecidableEq, Repr, Inhabited

namespace Colour

/-- The code of a colour in front. -/
def code : Colour → String
  | red => "31"
  | green => "32"
  | yellow => "33"
  | blue => "34"
  | magenta => "35"
  | cyan => "36"
  | white => "37"
  | brightCyan => "96"

/-- The code of a colour behind. -/
def backgroundCode : Colour → String
  | red => "41"
  | green => "42"
  | yellow => "43"
  | blue => "44"
  | magenta => "45"
  | cyan => "46"
  | white => "47"
  | brightCyan => "106"

end Colour

/-- How text is shown. -/
structure Style where
  bold : Bool := false
  dimmed : Bool := false
  underline : Bool := false
  background : Option Colour := none
  foreground : Option Colour := none
deriving DecidableEq, Repr, Inhabited

namespace Style

/-- The codes of a style: its attributes, what is behind, what is in front. -/
def codes (s : Style) : List String :=
  (if s.bold then ["1"] else []) ++ (if s.dimmed then ["2"] else []) ++
    (if s.underline then ["4"] else []) ++ s.background.toList.map Colour.backgroundCode ++
    s.foreground.toList.map Colour.code

/-- The control sequence that starts a style. -/
def opening (s : Style) : List Char :=
  '\x1b' :: '[' :: ((String.intercalate ";" s.codes).toList ++ ['m'])

/-- The control sequence that ends every style. -/
def closing : List Char := ['\x1b', '[', '0', 'm']

/-- Starts the style again after every sequence inside a text that ends it. -/
def resume (s : Style) : List Char → List Char
  | '\x1b' :: '[' :: '0' :: 'm' :: r => closing ++ s.opening ++ resume s r
  | c :: r => c :: resume s r
  | [] => []

end Style

/-- A piece of text with or without a style. -/
structure Span where
  text : String
  style : Option Style := none
deriving DecidableEq, Repr, Inhabited

namespace Span

/-- The text alone. -/
def plain (s : Span) : List Char := s.text.toList

/-- The text between the control sequences of its style. -/
def coloured (s : Span) : List Char :=
  match s.style with
  | none => s.text.toList
  | some style =>
    style.opening ++ style.resume s.text.toList ++ Style.closing

end Span

/-- A text in pieces. -/
abbrev Document := List Span

namespace Document

/-- The text without its styles. -/
def plain (d : Document) : String := String.ofList (d.flatMap Span.plain)

/-- The text with the control sequences of its styles. -/
def coloured (d : Document) : String := String.ofList (d.flatMap Span.coloured)

/-- The text in one of the two ways. -/
def shown (d : Document) (colour : Bool) : String := if colour then d.coloured else d.plain

end Document

/-- Text without a style. -/
def plainText (text : String) : Span := { text }

/-- Text in a style. -/
def styled (style : Style) (text : String) : Span := { text, style := some style }

/-- A piece of a document that ends its line. -/
def lineOf (spans : Document) : Document := spans ++ [plainText "\n"]

end PythonAudit
