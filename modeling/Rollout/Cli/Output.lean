import Rollout.Cli.Run
import Rollout.Cli.Words
import Rollout.Settings.Yaml
import Rollout.Text.Style

/-!
# Output

What is left of a command line when it has been run: its output, the text about errors and the
status with which the program ends.
-/

namespace Rollout.Cli

/-- What to tell about a failure. -/
def Crash.message : Crash Yaml.Failure → String
  | .notText => "a file is not text"
  | .disk _ => "a file or a folder cannot be used"
  | .nulInPath => "a path holds a character that none may hold"
  | .rejected (.badValue message) => message
  | .rejected .longInteger => "an integer has too many digits"
  | .rejected (.overflow _) => "a number is too large"
  | .rejected .malformed => "a file is not YAML"
  | .longInteger => "an integer has too many digits"

namespace Result

variable {φ : Type}

/-- The text of lines, without terminal sequences. -/
def text (lines : List String) : String :=
  String.join (lines.map (fun line => String.ofList (Text.stripStyles line.toList) ++ "\n"))

/-- The version of the program. -/
def version : String := "0.1.0"

/-- The help of the program. -/
def help : List String :=
  ["Usage: confdeploy [--verbose] [--quiet] [--debug] [--config PATH] COMMAND",
    "",
    "Deploy monitoring configuration in dependency order.",
    "",
    "  config show [--json]   show the settings",
    "  config check [--json]  check the settings",
    "  features               list the features",
    "  render TEMPLATE [--property KEY=VALUE]... [--raw] [--no-validate]",
    "                         render a template"]

/-- The output. -/
def out (r : Result Halt φ) : String :=
  match r.ending with
  | .ok printed => text printed.out
  | .error (.halt .help) => text help
  | .error (.halt .version) => text ["confdeploy, version " ++ version]
  | .error _ => ""

/-- The text about errors that the command line accounts for.  A failure that no command
expects has none. -/
def err (r : Result Halt φ) : String :=
  match r.ending with
  | .ok printed => text printed.err
  | .error (.halt (.misuse m)) => text ["Error: " ++ m.message]
  | .error (.badProperty pair) => text [s!"Error: {pair} is not of the form key=value"]
  | .error _ => ""

/-- The status with which the program ends: success, failure, or misuse. -/
def exitCode (r : Result Halt φ) : Nat :=
  match r.ending with
  | .ok printed => if printed.failed then 1 else 0
  | .error (.halt .help) => 0
  | .error (.halt .version) => 0
  | .error (.halt (.misuse _)) => 2
  | .error (.halt .nulInPath) => 1
  | .error (.badProperty _) => 2
  | .error (.crash _) => 1

/-- The failure that no command expects. -/
def crash? (r : Result Halt φ) : Option (Crash φ) :=
  match r.ending with
  | .error (.halt .nulInPath) => some .nulInPath
  | .error (.crash c) => some c
  | _ => none

end Result

end Rollout.Cli
