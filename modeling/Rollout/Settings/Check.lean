import Rollout.Log.Level
import Rollout.Settings.Load

/-!
# Checking settings

What is wrong with the settings, and what is doubtful about them.
-/

namespace Rollout.Settings

/-- The result of checking the settings. -/
structure CheckResult where
  /-- The settings, if there are any. -/
  settings : Option Settings
  /-- The settings file, if there is one. -/
  path : Option Path
  /-- What is wrong. -/
  errors : List String
  /-- What is doubtful. -/
  warnings : List String

/-- Whether nothing is wrong. -/
def CheckResult.valid (r : CheckResult) : Bool :=
  r.errors.isEmpty

/-- The overridden features that do not exist, sorted. -/
def unknownFeatures (s : Settings) : List String :=
  (s.features.keys.filter (fun name => (Feature.named? name).isNone)).mergeSort (fun a b => a ≤ b)

/-- The log levels that are known to the settings. -/
def levelWords : List String :=
  ["DEBUG", "INFO", "WARNING", "ERROR", "CRITICAL"]

/-- What is wrong with settings that fit. -/
def errors (s : Settings) : List String :=
  match s.unknownFeatures with
  | [] => []
  | names => ["Unknown feature flags: " ++ String.intercalate ", " names]

/-- Whether the settings name a log level that is known to them. -/
def knowsLevel (s : Settings) : Bool :=
  levelWords.contains (Log.upper s.logLevel)

/-- What is doubtful about settings that fit. -/
def warnings (s : Settings) (path : Option Path) : List String :=
  (if path.isNone then [s!"No {fileName} found, using defaults."] else [])
    ++ (if s.knowsLevel then []
        else [s!"Unknown log level '{s.logLevel}', WARNING will be used."])
    ++ (if s.dryRun && !s.continueOnError then
          ["continue_on_error is off during a dry run: validation stops at the first failure."]
        else [])

/-- Checks the settings, from a file or else from the nearest settings file. -/
def check {V φ ε : Type} (d : Dialect V φ ε) (vars : Variables) (disk : Disk)
    (path : Option Path) : Except (Failure φ ε) CheckResult :=
  match locate? disk path with
  | .error fault => .error (.disk fault)
  | .ok path =>
    match load d vars disk path with
    | .ok s => .ok ⟨some s, path, s.errors, s.warnings path⟩
    | .error (.problem p) => .ok ⟨none, path, [p.message], []⟩
    | .error e => .error e

end Rollout.Settings
