import PythonAudit.Command.Argument
import PythonAudit.Config
import PythonAudit.Render.Format

/-!
# Commands

The program scans, lists its detectors, or writes a new configuration file. Some options go with
every command and may stand before or after its name; after it they win.
-/

namespace PythonAudit

/-- What a scan is asked to do. -/
structure ScanRequest where
  target : String
  output : Option String := none
  minSeverity : Option String := none
  failOn : Option String := none
  exclude : List String := []
  noProgress : Bool := false
deriving DecidableEq, Repr, Inhabited

/-- What the program is asked to do. -/
inductive Command where
  | scan (request : ScanRequest)
  | detectors (json : Bool)
  | init (path : String)
deriving DecidableEq, Repr, Inhabited

/-- A command with the options that go with every command. -/
structure Invocation where
  command : Command
  format : String := OutputFormat.standard.written
  verbose : Bool := false
  noColour : Bool := false
  debug : Bool := false
  config : Option String := none
deriving DecidableEq, Repr, Inhabited

namespace Command

/-- The options that go with every command; the version is shown for the program or for a
command. -/
def sharedOptions (program : String) : List Slot :=
  [{ name := "format", short := some 'f', form := .text },
    { name := "verbose", short := some 'v' },
    { name := "no-color" },
    { name := "debug" },
    { name := "config", short := some 'c', form := .path },
    { name := "help", short := some 'h', form := .help },
    { name := "version", short := some 'V', form := .version program }]

/-- The arguments before a command. -/
def top : Takes :=
  { options := sharedOptions "taiga", commands := ["scan", "detectors", "init", "help"] }

/-- The arguments of a scan. -/
def scanTakes : Takes :=
  { options := sharedOptions "taiga-scan" ++
      [{ name := "output", short := some 'o', form := .path },
        { name := "min-severity", form := .text },
        { name := "fail-on", form := .text },
        { name := "exclude", form := .texts },
        { name := "no-progress" }]
    operand := some { name := "target", form := .path } }

/-- The arguments of a listing. -/
def detectorsTakes : Takes := { options := sharedOptions "taiga-detectors" ++ [{ name := "json" }] }

/-- The arguments of a new configuration file. -/
def initTakes : Takes :=
  { options := sharedOptions "taiga-init", operand := some { name := "path", form := .path } }

/-- What the name of a command and the arguments after it ask for. -/
def read (name : String) (arguments : List String) : Except UsageError (Command × Given) := do
  match name with
  | "scan" =>
    let (g, _) ← scanTakes.read false {} arguments
    match g.value? "target" with
    | none => .error .missingArgument
    | some target =>
      return (.scan {
        target
        output := g.value? "output"
        minSeverity := g.value? "min-severity"
        failOn := g.value? "fail-on"
        exclude := g.valuesOf "exclude"
        noProgress := g.has "no-progress" }, g)
  | "detectors" =>
    let (g, _) ← detectorsTakes.read false {} arguments
    return (.detectors (g.has "json"), g)
  | "init" =>
    let (g, _) ← initTakes.read false {} arguments
    return (.init ((g.value? "path").getD Config.fileName), g)
  | _ =>
    -- Help on a command; there is nothing below a command to ask about.
    match arguments with
    | [] => .error .displayHelp
    | [n] => if top.commands.contains n then .error .displayHelp else .error .unknownCommand
    | _ => .error .unknownCommand

end Command

/-- What the arguments of the program ask for. -/
def Invocation.ofArguments (arguments : List String) : Except Command.UsageError Invocation := do
  let (before, rest) ← Command.top.read false {} arguments
  match rest with
  | none => if before.values.isEmpty then .error .helpOnMissing else .error .missingCommand
  | some (name, arguments) =>
    let (command, after) ← Command.read name arguments
    let before ← before.settle
    let value? (name : String) : Option String := (after.value? name).or (before.value? name)
    return {
      command
      format := (value? "format").getD OutputFormat.standard.written
      verbose := (value? "verbose").isSome
      noColour := (value? "no-color").isSome
      debug := (value? "debug").isSome
      config := value? "config" }

end PythonAudit
