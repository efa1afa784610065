import Rollout.Files.Disk
import Rollout.Log.Choice

/-!
# Tasks

What a command line asks for: what is chosen for all commands, the command, and the task that the
words for the command describe.  How words are parsed is not fixed.
-/

namespace Rollout.Cli

/-- A text up to its first equals sign, and what follows that. -/
def cutAtEquals (s : List Char) : String × Option String :=
  let value := match s.dropWhile (· ≠ '=') with
    | [] => none
    | _ :: value => some (String.ofList value)
  (String.ofList (s.takeWhile (· ≠ '=')), value)

/-- What is chosen for all commands. -/
structure Globals where
  /-- The switches for the log. -/
  switches : Log.Switches
  /-- The settings file, as it is written. -/
  config : Option String
deriving DecidableEq, Repr

/-- The path of the settings file, unless it is empty. -/
def Globals.path? (g : Globals) : Option Path :=
  (g.config.bind nonempty?).map Path.ofText

/-- A command, or a family of them. -/
inductive Command where
  /-- What has to do with the settings. -/
  | config
  | features
  /-- The rendering of a template. -/
  | render
deriving DecidableEq, Repr

/-- A command line: what holds for all commands, the command, and the words for it. -/
structure Invocation where
  /-- What is chosen for all commands. -/
  globals : Globals
  command : Command
  /-- The words for the command. -/
  words : List String
deriving DecidableEq, Repr

/-- What to render, and how. -/
structure Rendering where
  /-- The template. -/
  template : Path
  /-- The properties as pairs in one word. -/
  pairs : List String
  /-- Whether values are inserted as they are. -/
  raw : Bool
  /-- Whether the result may be anything. -/
  unchecked : Bool
deriving DecidableEq, Repr

/-- Something to do. -/
inductive Task where
  | showSettings (asJson : Bool)
  | checkSettings (asJson : Bool)
  | listFeatures
  /-- Render a template. -/
  | render (r : Rendering)
deriving DecidableEq, Repr

/-- A parser of command lines, with `σ` for what it ends one with instead of a task.  The words
for a command are parsed only after the choices for all commands have taken effect, and a look
at the disk may go with it. -/
structure Parser (σ : Type) where
  /-- The command line that words make up. -/
  invocation : (words : List String) → Except σ Invocation
  /-- The task that the words for a command ask for. -/
  task : Disk → Command → (words : List String) → Except σ Task

end Rollout.Cli
