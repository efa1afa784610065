import Rollout.Cli.Stop
import Rollout.Cli.Task
import Rollout.Json.Reader
import Rollout.Settings.Json
import Rollout.Template.File

/-!
# Running a command line

A run reads the settings, sets the logging up and then does what the command asks for.
Broken settings stop only the commands that need them.
-/

namespace Rollout.Cli

/-- What a task prints, line by line, and whether it fails. -/
structure Printed where
  /-- The lines of the output. -/
  out : List String
  /-- The lines about errors. -/
  err : List String := []
  /-- Whether the task fails. -/
  failed : Bool := false
deriving DecidableEq, Repr

/-- The result of a task that fails with one line about why. -/
def Printed.failure (message : String) : Printed :=
  { out := [], err := ["❌ " ++ message], failed := true }

/-- A truth value as a word. -/
def truthWord (b : Bool) : String :=
  if b then "True" else "False"

/-- A JSON value as a text of several lines. -/
def jsonText (j : Json) : String :=
  String.ofList (j.layout 0)

/-- The lines that show settings. -/
def settingsLines (s : Settings) : List String :=
  let folder := (s.stubsFolder.bind nonempty?).getD "-"
  ["\n⚙️  Deploy settings",
    s!"   dry run:           {truthWord s.options.dryRun}",
    s!"   continue on error: {truthWord s.options.continueOnError}",
    s!"   log level:         {s.logLevel}",
    s!"   stubs folder:      {folder}",
    ""]

section

variable {V φ ε σ : Type} (d : Settings.Dialect V φ ε)

/-- Does something with the settings; a problem with them is reported. -/
def withSettings (vars : Variables) (disk : Disk) (path : Option Path)
    (f : Settings → Printed) : Except (Stop σ φ) Printed :=
  match Settings.load d vars disk path with
  | .ok s => .ok (f s)
  | .error e =>
    match Crash.ofSettings e with
    | .error p => .ok (.failure p.message)
    | .ok c => .error (.crash c)

/-- Shows the settings. -/
def showSettings (vars : Variables) (disk : Disk) (path : Option Path) (asJson : Bool) :
    Except (Stop σ φ) Printed :=
  withSettings d vars disk path fun s =>
    { out := if asJson then [jsonText s.toJson] else settingsLines s }

/-- The lines that show the result of checking the settings. -/
def checkLines (quiet : Bool) (r : Settings.CheckResult) : List String :=
  (if r.valid then "✅ Settings are valid" else "❌ Settings have errors")
    :: r.errors.map (fun e => "   ✗ " ++ e)
    ++ (if quiet then [] else r.warnings.map (fun w => "   ⚠ " ++ w))

/-- Checks the settings. -/
def checkSettings (vars : Variables) (disk : Disk) (globals : Globals) (asJson : Bool) :
    Except (Stop σ φ) Printed :=
  match Settings.check d vars disk globals.path? with
  | .ok r => .ok
      { out := if asJson then [jsonText r.toJson] else checkLines globals.switches.quiet r
        failed := !r.valid }
  | .error e =>
    match Crash.ofSettings e with
    | .error p => .ok (.failure p.message)
    | .ok c => .error (.crash c)

/-- Lists the features, with a mark for those that are enabled. -/
def listFeatures (vars : Variables) (disk : Disk) (path : Option Path) :
    Except (Stop σ φ) Printed :=
  withSettings d vars disk path fun s =>
    { out := Feature.known.map fun (name, f) =>
        let mark := if ((s.feature? name).getD f).enabled vars then "✓" else "✗"
        s!"   {mark} {name}  ({f.var})" }

/-- The properties that pairs describe, or the first pair that describes none; of two with the same
name the last one counts. -/
def readPairs (pairs : List String) : Except String Properties :=
  pairs.foldlM (fun properties pair =>
    match cutAtEquals pair.toList with
    | ("", _) => .error pair
    | (_, none) => .error pair
    | (name, some value) => .ok (properties.insert name (.text value))) .empty

/-- The result of rendering, unless it should be JSON and is none. -/
def checkRendered (unchecked : Bool) (result : String) : Except (Stop σ φ) Printed :=
  if unchecked then .ok { out := [result] }
  else match Json.parse result.toList with
    | .ok _ => .ok { out := [result] }
    | .error (.malformed m) =>
      .ok (.failure ("Rendered template is not valid JSON: " ++ m.message))
    | .error .longInteger => .error (.crash .longInteger)

/-- Renders a template. -/
def renderTemplate (vars : Variables) (disk : Disk) (r : Rendering) :
    Except (Stop σ φ) Printed :=
  match readPairs r.pairs with
  | .error pair => .error (.badProperty pair)
  | .ok properties =>
    match Template.ofFile disk r.template with
    | .error .notText => .error (.crash .notText)
    | .error (.disk fault) => .error (.crash (.ofFault fault))
    | .ok t =>
      match t.render vars (if r.raw then properties else properties.escape) with
      | .error (.unresolved gap) => .ok (.failure (gap.message t.id))
      | .error (.unwritable .longInteger) => .error (.crash .longInteger)
      | .ok result => checkRendered r.unchecked result

/-- Does what a command asks for. -/
def perform (vars : Variables) (disk : Disk) (globals : Globals) :
    Task → Except (Stop σ φ) Printed
  | .showSettings asJson => showSettings d vars disk globals.path? asJson
  | .checkSettings asJson => checkSettings d vars disk globals asJson
  | .listFeatures => listFeatures d vars disk globals.path?
  | .render r => renderTemplate vars disk r

/-- The level that the settings configure.  A problem with them is left to the commands
that need them. -/
def configuredLevel (vars : Variables) (disk : Disk) (globals : Globals) :
    Except (Crash φ) (Option String) :=
  match Settings.load d vars disk globals.path? with
  | .ok s => .ok (some s.logLevel)
  | .error e =>
    match Crash.ofSettings e with
    | .error _ => .ok none
    | .ok c => .error c

/-- What a run leaves behind. -/
structure Result (σ φ : Type) where
  /-- Why it ends, or what its command prints. -/
  ending : Except (Stop σ φ) Printed
  logging : Log.Logging
  disk : Disk

/-- Runs a command line. -/
def run (g : Parser σ) (vars : Variables) (disk : Disk) (words : List String) : Result σ φ :=
  match g.invocation words with
  | .error h => ⟨.error (.halt h), .initial, disk⟩
  | .ok invocation =>
    let globals := invocation.globals
    match configuredLevel d vars disk globals with
    | .error c => ⟨.error (.crash c), .initial, disk⟩
    | .ok configured =>
      match Log.Logging.initial.setup (globals.switches.plan vars configured) disk with
      | (disk, .error fault) => ⟨.error (.crash (.ofFault fault)), .initial, disk⟩
      | (disk, .ok logging) =>
        let ending := match g.task disk invocation.command invocation.words with
          | .error h => .error (.halt h)
          | .ok task => perform d vars disk globals task
        ⟨ending, logging, disk⟩

end

end Rollout.Cli
