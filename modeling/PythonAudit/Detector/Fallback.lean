import PythonAudit.Report.Finding
import PythonAudit.Strict.Lexer
import PythonAudit.Text.Locate

/-!
# Names in source that cannot be parsed

Where there is no tree, dangerous names are looked for among the tokens. The first fault of the
token stream ends the search.
-/

namespace PythonAudit

namespace Fallback

/-- The name under which findings are reported. -/
def name : String := "TokenAnalyzer"

/-- The names that are reported. -/
def denylist : List String := ["eval", "exec", "__import__"]

/-- The finding for a token. -/
def finding? (source : String) (t : Strict.Spanned) : Option Finding :=
  match t.token with
  | .name n =>
    if denylist.contains n then
      let (line, column) := Text.locate source t.start
      some ⟨name, .high, "Dangerous identifier found despite syntax error: " ++ n, line, column, n⟩
    else none
  | _ => none

/-- The findings among the tokens before the first fault. -/
def scan (source : String) : Strict.Stream → List Finding
  | [] => []
  | .error _ :: _ => []
  | .ok t :: r => (finding? source t).toList ++ scan source r

/-- The findings among the tokens of a source. -/
def findings (source : String) : List Finding := scan source (Strict.lex source.toList)

end Fallback

end PythonAudit
