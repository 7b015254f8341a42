import PythonAudit.Command.Basic
import PythonAudit.Command.Help
import PythonAudit.Command.Listing
import PythonAudit.Config.Load
import PythonAudit.Scan

/-!
# Running commands

* A run takes the arguments and the file tree, and gives the exit code, what is printed, and the
  tree after it.
* A scan ends with code 1 when it fails, when a directory holds no Python files, and when a finding
  at or above the severity to fail on is shown.
* Files are written by a scan with an output and by a new configuration file, and by nothing else.
-/

namespace PythonAudit

/-- What a run finds around it. -/
structure Surroundings where
  /-- Colours are shown. -/
  colour : Bool := false
  /-- The directory with the configuration files of the user. -/
  userConfigs : Option String := none
  /-- The orders in which the characters of literals are added up, file by file. -/
  orders : String → List Rearrangement := fun _ => []
deriving Inhabited

/-- The configuration files that are used without being asked for. -/
def Surroundings.configFiles (s : Surroundings) : List String :=
  Config.fileName :: s.userConfigs.toList.map Config.userFile

/-- What a run leaves. -/
structure Outcome where
  code : Nat := 0
  out : String := ""
  err : String := ""
  tree : FileTree
deriving Inhabited

namespace Outcome

/-- The complaint about a failure, with what caused it. -/
def complaint (f : Failure) : String :=
  "Error: " ++ f.message ++ "\n" ++
    (match f.cause? with
    | some c => "\nCaused by:\n    " ++ c ++ "\n"
    | none => "")

/-- The end of a run that fails and changes nothing. -/
def failed (t : FileTree) (f : Failure) (out : String := "") : Outcome :=
  { code := 1, out, err := complaint f, tree := t }

end Outcome

namespace Invocation

/-- The run shows colours. -/
def colour (i : Invocation) (s : Surroundings) : Bool := s.colour && !i.noColour

/-- The configuration of a run: the one that is asked for, or a usual one. -/
def configuration (i : Invocation) (s : Surroundings) (t : FileTree) : Except Failure Config :=
  match i.config with
  | some path => Config.load t path
  | none => .ok (Config.loadFirst t s.configFiles)

end Invocation

/-! ### Scanning -/

/-- The severity with a name. -/
def Severity.named (name : String) : Except Failure Severity :=
  match Severity.ofName? name with
  | some s => .ok s
  | none => .error (.unknownSeverity name)

/-- The format with a name. -/
def OutputFormat.named (name : String) : Except Failure OutputFormat :=
  match OutputFormat.ofName? name with
  | some f => .ok f
  | none => .error (.unknownFormat name)

/-- Adds the patterns that are not there yet. -/
def addPatterns (patterns more : List String) : List String :=
  more.foldl (fun ps p => if ps.contains p then ps else ps ++ [p]) patterns

/-- A scan that was made. -/
structure Scanned where
  format : OutputFormat
  minSeverity : Severity
  failOn : Severity
  report : ScanReport
deriving Repr, Inhabited

/-- The report as it is shown. -/
def Scanned.shown (s : Scanned) : ScanReport := s.report.filterMin s.minSeverity

/-- A finding that is shown is bad enough to fail. -/
def Scanned.fails (s : Scanned) : Bool := s.shown.maxSeverity?.any fun m => m.atLeast s.failOn

/-- What a scan looks for: what the arguments exclude is excluded beside what the configuration
excludes. -/
def ScanRequest.settings (r : ScanRequest) (c : Config) (s : Surroundings) : ScanSettings :=
  { thresholds := c.thresholds, exclude := addPatterns c.exclude r.exclude, orders := s.orders }

/-- Makes a scan: what the arguments say wins over the configuration. -/
def ScanRequest.perform (r : ScanRequest) (i : Invocation) (c : Config) (s : Surroundings)
    (t : FileTree) :
    Except Failure Scanned := do
  let format ← OutputFormat.named i.format
  let minSeverity ← Severity.named (r.minSeverity.getD c.minSeverity)
  let failOn ← Severity.named (r.failOn.getD c.failOn)
  let report ← (r.settings c s).scan t r.target
  return { format, minSeverity, failOn, report }

/-- Shows a scan, and writes it when an output is asked for. -/
def ScanRequest.show (r : ScanRequest) (i : Invocation) (colour : Bool) (t : FileTree)
    (s : Scanned) :
    Outcome :=
  let out := s.format.render i.verbose colour s.shown
  let code := if s.fails then 1 else 0
  match r.output with
  | none => { code, out, tree := t }
  | some path =>
    match t.write path (OutputFormat.json.render i.verbose colour s.shown).toUTF8 with
    | .error p => Outcome.failed t (.unwritable p) out
    | .ok written => { code, out, err := "Report written to: " ++ path ++ "\n", tree := written }

/-- Runs a scan. -/
def ScanRequest.run (r : ScanRequest) (i : Invocation) (c : Config) (s : Surroundings)
    (t : FileTree) :
    Outcome :=
  match r.perform i c s t with
  | .error f => Outcome.failed t f
  | .ok scanned =>
    if t.isDirectory r.target && scanned.report.isEmpty then
      let line :=
        lineOf [styled { foreground := some .red } ("No Python files found under " ++ r.target)]
      { code := 1, err := line.shown (i.colour s), tree := t }
    else r.show i (i.colour s) t scanned

/-! ### The other commands -/

/-- Lists the detectors. -/
def runListing (json : Bool) (c : Config) (colour : Bool) (t : FileTree) : Outcome :=
  let ds := Detector.standard c.thresholds
  { out := if json then (Listing.json ds).pretty ++ "\n" else (Listing.text ds).shown colour
    tree := t }

/-- Writes a new configuration file where none is. -/
def runInit (path : String) (colour : Bool) (t : FileTree) : Outcome :=
  if t.pathExists path then
    { code := 1
      err :=
        (lineOf [styled { foreground := some .yellow } ("Config file already exists: " ++ path)]
        ++ lineOf [plainText "Use a different path or remove the existing file."]).shown colour
      tree := t }
  else
    match t.write path Config.initialText.toUTF8 with
    | .error p => Outcome.failed t (.unwritable p)
    | .ok written =>
      let created := lineOf [styled { foreground := some .green } ("Created config file: " ++ path)]
      let advice := "Edit this file to tune severities, excludes and entropy thresholds."
      { out := (created ++ lineOf [plainText advice]).shown colour, tree := written }

/-- Runs a command. -/
def Invocation.run (i : Invocation) (s : Surroundings) (t : FileTree) : Outcome :=
  match i.configuration s t with
  | .error f => Outcome.failed t f
  | .ok c =>
    match i.command with
    | .scan r => r.run i c s t
    | .detectors json => runListing json c (i.colour s) t
    | .init path => runInit path (i.colour s) t

/-- Runs the program with its arguments. -/
def runArguments (s : Surroundings) (t : FileTree) (arguments : List String) : Outcome :=
  match Invocation.ofArguments arguments with
  | .ok i => i.run s t
  | .error e => { code := e.code, out := e.out, err := e.err, tree := t }

end PythonAudit
