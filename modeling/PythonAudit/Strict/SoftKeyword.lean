import PythonAudit.Strict.Fault

/-!
# Words that are keywords only sometimes

`match` and `case` are keywords at the start of a line that has a colon outside brackets, not right
after the word and not of a lambda. `type` is a keyword at the start of a line that goes on with a
name, perhaps something in square brackets, and an equals sign. Elsewhere the three words are names.
-/

namespace PythonAudit

namespace Strict

/-- A colon outside brackets follows on the line. -/
def colonAhead : Stream → Int → Bool → Bool → Bool
  | .ok ⟨t, _, _⟩ :: r, nesting, first, inLambda =>
    match t with
    | .newline => false
    | .word "lambda" => colonAhead r nesting false (inLambda || nesting == 0)
    | .sign ":" =>
      if nesting == 0 then
        if inLambda then colonAhead r nesting false false
        else if first then colonAhead r nesting false false
        else true
      else colonAhead r nesting false inLambda
    | .sign g =>
      if g == "(" || g == "[" || g == "\x7b" then colonAhead r (nesting + 1) false inLambda
      else if g == ")" || g == "]" || g == "\x7d" then colonAhead r (nesting - 1) false inLambda
      else colonAhead r nesting false inLambda
    | _ => colonAhead r nesting false inLambda
  | _, _, _, _ => false

/-- An equals sign follows, after nothing but brackets. -/
def equalsAhead : Stream → Int → Bool
  | .ok ⟨t, _, _⟩ :: r, nesting =>
    match t with
    | .newline => false
    | .sign "=" => nesting == 0 || (0 < nesting && equalsAhead r nesting)
    | .sign "[" => equalsAhead r (nesting + 1)
    | .sign "]" => equalsAhead r (nesting - 1)
    | _ => 0 < nesting && equalsAhead r nesting
  | _, _ => false

/-- A word that can be a name comes next. -/
def nameAhead : Stream → Bool
  | .ok ⟨.name _, _, _⟩ :: _ => true
  | .ok ⟨.word w, _, _⟩ :: _ => softKeywords.contains w
  | _ => false

/-- The word starts a statement of its own, given what follows it on its line. -/
def isKeywordHere (w : String) (rest : Stream) : Bool :=
  if w == "type" then nameAhead rest && equalsAhead (rest.drop 1) 0
  else colonAhead rest 0 true false

/-- A line starts after the token. -/
def startsLine : Token → Bool
  | .newline => true
  | .indent => true
  | .dedent => true
  | _ => false

/-- Makes names of the soft keywords that are not used as keywords. -/
def resolveSoft : Stream → Bool → Stream
  | [], _ => []
  | .error e :: r, _ => .error e :: r
  | .ok ⟨.word w, a, b⟩ :: r, lineStart =>
    let t :=
      if softKeywords.contains w && !(lineStart && isKeywordHere w r) then Token.name w
      else .word w
    .ok ⟨t, a, b⟩ :: resolveSoft r false
  | .ok t :: r, _ => .ok t :: resolveSoft r (startsLine t.token)

end Strict

end PythonAudit
