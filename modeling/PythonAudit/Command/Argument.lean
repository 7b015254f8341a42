/-!
# Arguments of a command

* `Takes` says which options a command knows, whether it takes an operand, and which commands follow
  it.
* An option with a value takes it from the same argument or from the next one. Its value counts once
  it is clear what follows; then a second value for an option that takes one is a conflict, and a
  path must not be empty.
* After `--` all arguments are operands.
-/

namespace PythonAudit

namespace Command

/-- Why arguments are refused, or what they ask for instead of a command. -/
inductive UsageError where
  | displayHelp
  | displayVersion (program : String)
  | helpOnMissing
  | missingCommand
  | unknownCommand
  | unknownArgument
  | missingArgument
  | invalidValue
  | conflict
  | tooManyValues
deriving DecidableEq, Repr, Inhabited

/-- What an option does. -/
inductive Form where
  /-- It is there or not. -/
  | flag
  /-- It has a text. -/
  | text
  /-- It has a path, which is not empty. -/
  | path
  /-- It has any number of texts. -/
  | texts
  | help
  /-- It shows the version of the program with the name. -/
  | version (program : String)
deriving DecidableEq, Repr, Inhabited

/-- The option takes a value. -/
def Form.hasValue : Form → Bool
  | .text | .path | .texts => true
  | _ => false

/-- An option, or an operand, which has no dashes. -/
structure Slot where
  name : String
  short : Option Char := none
  form : Form := .flag
deriving DecidableEq, Repr, Inhabited

/-- What a command takes. -/
structure Takes where
  options : List Slot
  operand : Option Slot := none
  commands : List String := []
deriving Repr, Inhabited

/-- The arguments read so far. -/
structure Given where
  /-- The values that count, in order. -/
  values : List (String × String) := []
  /-- The option or operand read last, with its value if that is known. -/
  pending : Option (Slot × Option String) := none
  /-- The operand was given. -/
  full : Bool := false
deriving Repr, Inhabited

namespace Given

/-- A value was given. -/
def has (g : Given) (name : String) : Bool := g.values.any fun v => v.1 == name

/-- The value that was given. -/
def value? (g : Given) (name : String) : Option String := g.values.lookup name

/-- All values that were given. -/
def valuesOf (g : Given) (name : String) : List String :=
  (g.values.filter fun v => v.1 == name).map Prod.snd

/-- Counts a value. -/
def store (g : Given) (s : Slot) (value : String) : Except UsageError Given :=
  if s.form != .texts && g.has s.name then .error .conflict
  else if s.form == .path && value.isEmpty then .error .invalidValue
  else .ok { g with values := g.values ++ [(s.name, value)] }

/-- Counts the value that is pending. -/
def settle (g : Given) : Except UsageError Given :=
  match g.pending with
  | none => .ok g
  | some (_, none) => .error .invalidValue
  | some (s, some value) => { g with pending := none }.store s value

/-- The next argument is a value. -/
def isWaiting (g : Given) : Bool :=
  match g.pending with
  | some (_, none) => true
  | _ => false

/-- Reads an option, with the value in the same argument if there is one. -/
def take (g : Given) (s : Slot) (value : Option String) : Except UsageError Given := do
  let g ← g.settle
  match s.form, value with
  | .help, _ => .error .displayHelp
  | .version program, _ => .error (.displayVersion program)
  | .flag, _ => g.store s ""
  | _, some v => g.store s v
  | _, none => .ok { g with pending := some (s, none) }

end Given

/-- The value after an equals sign. -/
def splitEquals : List Char → List Char → String × Option String
  | [], name => (String.ofList name.reverse, none)
  | '=' :: r, name => (String.ofList name.reverse, some (String.ofList r))
  | c :: r, name => splitEquals r (c :: name)

/-- Reads what follows two dashes. -/
def Takes.long (k : Takes) (g : Given) (body : List Char) : Except UsageError Given :=
  let (name, value) := splitEquals body []
  match k.options.find? fun s => s.name == name with
  | none => .error .unknownArgument
  | some s => if !s.form.hasValue && value.isSome then .error .tooManyValues else g.take s value

/-- The value attached to an option of one letter; an equals sign before it does not count. -/
def attached : List Char → Option String
  | [] => none
  | '=' :: r => some (String.ofList r)
  | r => some (String.ofList r)

/-- Reads the letters that follow one dash. -/
def Takes.short (k : Takes) (g : Given) : List Char → Except UsageError Given
  | [] => .ok g
  | c :: r =>
    match k.options.find? fun s => s.short == some c with
    | none => .error .unknownArgument
    | some s =>
      if s.form.hasValue then g.take s (attached r)
      else do k.short (← g.take s none) r

/-- Reads an operand. -/
def Takes.readOperand (k : Takes) (g : Given) (only : Bool) (argument : String) :
    Except UsageError Given :=
  match k.operand with
  | some s =>
    if g.full then .error .unknownArgument
    else do return { (← g.settle) with pending := some (s, some argument), full := true }
  | none =>
    if k.commands.isEmpty || (only && k.commands.contains argument) then .error .unknownArgument
    else .error .unknownCommand

/-- Reads arguments up to the name of a command, which is given with the arguments after it. Only
operands are left when `only` is set. -/
def Takes.read (k : Takes) (only : Bool) (g : Given) :
    List String → Except UsageError (Given × Option (String × List String))
  | [] => do return (← g.settle, none)
  | a :: rest =>
    if only then do k.read true (← k.readOperand g true a) rest
    else if !g.isWaiting && k.commands.contains a then .ok (g, some (a, rest))
    else
      match a.toList with
      | ['-', '-'] => k.read true g rest
      | '-' :: '-' :: body => do k.read false (← k.long g body) rest
      | '-' :: c :: body => do k.read false (← k.short g (c :: body)) rest
      | _ =>
        match g.pending with
        | some (s, none) => k.read false { g with pending := some (s, some a) } rest
        | _ => do k.read false (← k.readOperand g false a) rest

end Command

end PythonAudit
