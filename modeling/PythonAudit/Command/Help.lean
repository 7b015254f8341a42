import PythonAudit.Command.Argument

/-!
# Help, version and usage

Asking for help or for the version is no mistake; everything else that keeps a command from running
is, and ends with code 2.
-/

namespace PythonAudit

/-- The version of the program. -/
def version : String := "0.2.0"

/-- The words that help. -/
def helpText : String :=
  "Static analyzer for malicious and obfuscated Python code\n\n" ++
  "Usage: taiga [OPTIONS] <COMMAND>\n\n" ++
  "Commands:\n" ++
  "  scan       Analyze a Python file or every .py file under a directory\n" ++
  "  detectors  List registered detectors and their denylists\n" ++
  "  init       Write a default taiga.toml\n" ++
  "  help       Print this message or the help of the given subcommand(s)\n\n" ++
  "Options:\n" ++
  "  -f, --format <FORMAT>  Output format: text, json, compact [default: text]\n" ++
  "  -v, --verbose          Show the matched pattern of every finding\n" ++
  "      --no-color         Disable colored output\n" ++
  "      --debug            Enable debug logging on stderr\n" ++
  "  -c, --config <CONFIG>  Path to a taiga.toml config file\n" ++
  "  -h, --help             Print help\n" ++
  "  -V, --version          Print version\n"

namespace Command.UsageError

/-- The words for what is wrong. -/
def message : UsageError → String
  | displayHelp => "help"
  | displayVersion _ => "version"
  | helpOnMissing => "no arguments were given"
  | missingCommand => "a subcommand is required but one was not provided"
  | unknownCommand => "unrecognized subcommand"
  | unknownArgument => "unexpected argument found"
  | missingArgument => "a required argument was not provided"
  | invalidValue => "a value is required but none was supplied"
  | conflict => "an argument cannot be used multiple times"
  | tooManyValues => "an unexpected value was given"

/-- The exit code. -/
def code : UsageError → Nat
  | displayHelp | displayVersion _ => 0
  | _ => 2

/-- What is printed when it was asked for. -/
def out : UsageError → String
  | displayHelp => helpText
  | displayVersion program => program ++ " " ++ version ++ "\n"
  | _ => ""

/-- What is printed when something is wrong. -/
def err : UsageError → String
  | displayHelp | displayVersion _ => ""
  | helpOnMissing => helpText
  | e => "error: " ++ e.message ++ "\n\nFor more information, try '--help'.\n"

end Command.UsageError

end PythonAudit
