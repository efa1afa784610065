import Rollout.Json.Printer
import Rollout.Settings.Check

/-!
# Settings as JSON

The settings and the result of checking them, for other programs to read.
-/

namespace Rollout

namespace Settings

/-- The settings as JSON. -/
def toJson (s : Settings) : Json :=
  .ofFields [("dry_run", .bool s.dryRun), ("continue_on_error", .bool s.continueOnError),
    ("log_level", .ofText s.logLevel), ("stubs_folder", .ofText? s.stubsFolder),
    ("features", .ofFields (s.features.entries.map (fun (name, b) => (name, .bool b))))]

/-- The result of checking the settings as JSON. -/
def CheckResult.toJson (r : CheckResult) : Json :=
  .ofFields [("valid", .bool r.valid), ("path", .ofText? (r.path.map Path.toText)),
    ("errors", .ofTexts r.errors), ("warnings", .ofTexts r.warnings),
    ("settings", (r.settings.map Settings.toJson).getD .null)]

end Settings

end Rollout
