import Rollout.Feature
import Rollout.Run.Loop

/-!
# Settings

The choices that hold for all runs.  A variable takes precedence over the settings file,
and the file over the value that a field has otherwise.
-/

namespace Rollout

/-- The choices that hold for all runs. -/
structure Settings where
  /-- Whether configs are only validated. -/
  dryRun : Bool := false
  /-- Whether a run continues after errors. -/
  continueOnError : Bool := true
  /-- The name of the log level. -/
  logLevel : String := "WARNING"
  /-- The folder for stubs. -/
  stubsFolder : Option String := none
  /-- The features that are overridden. -/
  features : Table String Bool := .empty

namespace Settings

/-- The choices of a run. -/
def options (s : Settings) : Options :=
  ⟨s.dryRun, s.continueOnError⟩

/-- A feature with its override. -/
def feature? (s : Settings) (name : String) : Option Feature :=
  (Feature.named? name).map (fun f => f.withOverride (s.features.find? name))

/-- The folder for stubs, unless its name is empty. -/
def stubsPath (s : Settings) : Option Path :=
  (s.stubsFolder.bind nonempty?).map Path.ofText

/-- The recorder for the stubs, with nothing recorded. -/
def recorder (s : Settings) : Recorder :=
  .ofFolder s.stubsPath

end Settings

end Rollout
