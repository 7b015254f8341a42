import PythonAudit.Strict.Token

/-!
# Faults of Python 3 source

`Fault` lists the reasons for which a text is refused, and `Fault.message` words them. `Located` is
a fault with its byte offset.
-/

namespace PythonAudit

namespace Strict

/-- A reason for which a text is refused. -/
inductive Fault where
  | unexpectedString
  | unexpectedUnicode
  | unexpectedNesting
  | unknownMargin
  | inconsistentMargin
  | tabAfterSpace
  | strayCharacter (c : Char)
  | strayContinuation
  | textEnded
  | lineEndedInString
  | misplacedUnderscore
  | invalidDecimal
  | leadingZero
  | digitsMissing
  | nonAsciiBytes
  | mixedBytes
  | defaultOrder
  | duplicateParameter (name : String)
  | bareStar
  | positionalAfterKeyword
  | unpackingAfterKeyword
  | repeatedKeyword (name : String)
  | starredExpression
  | doubleStarredExpression
  | wildcardTarget
  | incomplete
  | unexpectedIndent
  | missingBlock
  | unexpected (t : Token)
  | nestedTooDeeply
  | unclosedBrace
  | singleBrace
  | emptyExpression
  | invalidConversion
  | mismatchedDelimiter (opened closed : Char)
  | unmatchedDelimiter (closed : Char)
  | unterminatedString
  | inExpression (fault : Fault)
deriving Repr, Inhabited

/-- A fault of a format string. -/
def inFormat (reason : String) : String := "f-string: " ++ reason

/-- The wording of a fault. -/
def Fault.message : Fault → String
  | .unexpectedString => "Got unexpected string"
  | .unexpectedUnicode => "Got unexpected unicode"
  | .unexpectedNesting => "Got unexpected nesting"
  | .unknownMargin => "unindent does not match any outer indentation level"
  | .inconsistentMargin => "inconsistent use of tabs and spaces in indentation"
  | .tabAfterSpace => "Tabs not allowed as part of indentation after spaces"
  | .strayCharacter c => "Got unexpected token " ++ c.toString
  | .strayContinuation => "unexpected character after line continuation character"
  | .textEnded => "unexpected EOF while parsing"
  | .lineEndedInString => "EOL while scanning string literal"
  | .misplacedUnderscore => "Invalid Syntax"
  | .invalidDecimal => "Invalid decimal literal"
  | .leadingZero => "Invalid Token"
  | .digitsMissing => "ParseBigIntError \x7b kind: Empty \x7d"
  | .nonAsciiBytes => "bytes can only contain ASCII literal characters"
  | .mixedBytes => "cannot mix bytes and nonbytes literals"
  | .defaultOrder => "non-default argument follows default argument"
  | .duplicateParameter name => "duplicate argument '" ++ name ++ "' in function definition"
  | .bareStar => "named arguments must follow bare *"
  | .positionalAfterKeyword => "positional argument follows keyword argument"
  | .unpackingAfterKeyword => "iterable argument unpacking follows keyword argument unpacking"
  | .repeatedKeyword name => "keyword argument repeated: " ++ name
  | .starredExpression => "cannot use starred expression here"
  | .doubleStarredExpression => "cannot use double starred expression here"
  | .wildcardTarget => "cannot use '_' as a target"
  | .incomplete => "Got unexpected EOF"
  | .unexpectedIndent => "unexpected indent"
  | .missingBlock => "expected an indented block"
  | .unexpected t => "invalid syntax. Got unexpected token " ++ t.written
  | .nestedTooDeeply => inFormat "expressions nested too deeply"
  | .unclosedBrace => inFormat "expecting '\x7d'"
  | .singleBrace => inFormat "single '\x7d' is not allowed"
  | .emptyExpression => inFormat "empty expression not allowed"
  | .invalidConversion => inFormat "invalid conversion character"
  | .mismatchedDelimiter opened closed =>
    inFormat
      ("closing parenthesis '" ++ closed.toString ++ "' does not match opening parenthesis '" ++
      opened.toString ++ "'")
  | .unmatchedDelimiter closed => inFormat ("unmatched '" ++ closed.toString ++ "'")
  | .unterminatedString => inFormat "unterminated string"
  | .inExpression fault => inFormat fault.message

/-- A fault and its byte offset. -/
structure Located where
  fault : Fault
  offset : Nat
deriving Repr, Inhabited

/-- Tokens in source order; the first fault ends what can be known of the text. -/
abbrev Stream := List (Except Located Spanned)

end Strict

end PythonAudit
