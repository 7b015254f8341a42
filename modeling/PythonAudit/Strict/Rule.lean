import PythonAudit.Strict.Quoted
import PythonAudit.Strict.SoftKeyword

/-!
# Rules over tokens

A `Rule` reads tokens of a stream, or refuses the first token that no continuation of the grammar
admits. A construct that is well formed but not allowed, such as a repeated keyword argument, is
found only when the token after it is known to be admissible: it is kept as a pending fault, and an
earlier pending fault wins over a later refusal.
-/

namespace PythonAudit

namespace Strict

/-- The state of a rule: the tokens left, the fault that ends the stream, the number of tokens read,
the stop of the last one, and the first pending fault with the number of the token that reveals it.
`bound` exceeds the number of tokens of the stream. -/
structure State where
  rest : List Spanned
  ending : Option Located := none
  index : Nat := 0
  last : Nat := 0
  pending : Option (Nat × Located) := none
  bound : Nat
deriving Inhabited

/-- A refused text: the number of the token that was refused, and the fault to report. -/
structure Refusal where
  index : Nat
  located : Located
deriving Inhabited

/-- A reader of tokens. -/
abbrev Rule := StateT State (Except Refusal)

/-- The tokens before the first fault of a stream, and that fault. -/
def Stream.split : Stream → List Spanned × Option Located
  | [] => ([], none)
  | .error e :: _ => ([], some e)
  | .ok t :: r =>
    let (ts, e) := Stream.split r
    (t :: ts, e)

/-- The state before the first token of a stream. -/
def State.start (s : Stream) : State :=
  let (rest, ending) := s.split
  { rest, ending, bound := rest.length + 1 }

namespace Rule

/-! ### Refusing -/

/-- The fault to report when the next token is refused: an earlier pending one, if there is any. -/
def State.report (s : State) (l : Located) : Located :=
  match s.pending with
  | some (i, p) => if i < s.index then p else l
  | none => l

/-- Refuses the next token; `onToken` words the fault of a token and `atEnd` that of the end of the
text. -/
def refuseAs {α : Type} (onToken : Token → Fault) (atEnd : Fault) : Rule α := fun s =>
  let l : Located :=
    match s.rest, s.ending with
    | t :: _, _ => ⟨onToken t.token, t.start⟩
    | [], some e => e
    | [], none => ⟨atEnd, s.last⟩
  .error ⟨s.index, State.report s l⟩

/-- The fault of a token that cannot come next. -/
def unexpectedToken : Token → Fault
  | .indent => .unexpectedIndent
  | t => .unexpected t

/-- Refuses the next token. -/
def refuse {α : Type} : Rule α := refuseAs unexpectedToken .incomplete

/-- Refuses the next token where only a deeper margin could come. -/
def refuseBlock {α : Type} : Rule α := refuseAs (fun _ => .missingBlock) .unknownMargin

/-- Keeps a fault that the next token reveals. -/
def keep (l : Located) : Rule Unit :=
  modify fun s => if s.pending.isSome then s else { s with pending := some (s.index, l) }

/-- Keeps the fault of a check, if it has one. -/
def keepFault (e : Except Located Unit) : Rule Unit :=
  match e with
  | .ok () => return ()
  | .error l => keep l

/-- Tries one rule and then another one from the same place. Of two refusals the one that came
further counts. -/
def orElse {α : Type} (p q : Rule α) : Rule α := fun s =>
  match p s with
  | .ok r => .ok r
  | .error e =>
    match q s with
    | .ok r => .ok r
    | .error e' => .error (if e.index < e'.index then e' else e)

/-- Repeats a step until it gives a result, a bounded number of times. -/
def iterateWith {α β : Type} (step : α → Rule (α ⊕ β)) : Nat → α → Rule β
  | 0, _ => refuse
  | n + 1, a => do
    match ← step a with
    | .inl a => iterateWith step n a
    | .inr b => return b

/-- Repeats a step until it gives a result. Every repetition takes a token. -/
def iterate {α β : Type} (step : α → Rule (α ⊕ β)) (a : α) : Rule β := do
  iterateWith step (← get).bound a

/-! ### Tokens -/

/-- The next token. -/
def peek : Rule (Option Token) := do
  return (← get).rest.head?.map Spanned.token

/-- The token after the next one. -/
def peekSecond : Rule (Option Token) := do
  return ((← get).rest.drop 1).head?.map Spanned.token

/-- The offset of the next token. -/
def here : Rule Nat := do
  let s ← get
  return (s.rest.head?.map Spanned.start).getD s.last

/-- Takes the next token, whatever it is. -/
def take : Rule Spanned := do
  let s ← get
  match s.rest with
  | [] => refuse
  | t :: r =>
    set { s with rest := r, index := s.index + 1, last := t.stop }
    return t

/-- Takes a given token. -/
def takeToken (t : Token) : Rule Unit := do
  if (← peek) == some t then
    let _ ← take
  else refuse

/-- Takes a given token if it comes next, and tells whether it did. -/
def takeToken? (t : Token) : Rule Bool := do
  if (← peek) == some t then
    let _ ← take
    return true
  else return false

/-- Takes a given sign. -/
def takeSign (g : String) : Rule Unit := takeToken (.sign g)

/-- Takes a given sign if it comes next. -/
def takeSign? (g : String) : Rule Bool := takeToken? (.sign g)

/-- Takes a given word. -/
def takeWord (w : String) : Rule Unit := takeToken (.word w)

/-- Takes a given word if it comes next. -/
def takeWord? (w : String) : Rule Bool := takeToken? (.word w)

/-- Takes a name. -/
def takeName : Rule String := do
  match ← peek with
  | some (.name n) =>
    let _ ← take
    return n
  | _ => refuse

/-- The next token is a given sign. -/
def nextIs (g : String) : Rule Bool := do
  return (← peek) == some (.sign g)

/-! ### Lists -/

/-- Further items, each after a comma, and perhaps a comma at the end: after a comma another item
follows exactly when the next token can start one. The answer tells whether there was a comma. -/
def moreItems {α : Type} (starts : Token → Bool) (item : Rule α) : Rule Bool :=
  iterate (fun (seen : Bool) => do
    if ← takeSign? "," then
      if (← peek).any starts then
        let _ ← item
        return .inl true
      else return .inr true
    else return .inr seen) false

/-- Items divided by commas, perhaps with a comma at the end. The answer tells whether there was a
comma. -/
def items {α : Type} (starts : Token → Bool) (item : Rule α) : Rule Bool := do
  let _ ← item
  moreItems starts item

/-- Items divided by commas, without a comma at the end. -/
def strictItems {α : Type} (item : Rule α) : Rule (List α) := do
  let first ← item
  iterate (fun (acc : List α) => do
    if ← takeSign? "," then return .inl ((← item) :: acc)
    else return .inr acc.reverse) [first]

end Rule

end Strict

end PythonAudit
