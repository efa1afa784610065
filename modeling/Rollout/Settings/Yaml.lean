import Rollout.Schema
import Rollout.Settings.Load
import Rollout.Yaml.Reader

/-!
# Settings in YAML

The dialect of the program: settings files are YAML, and their fields are validated one by one.
-/

namespace Rollout.Settings

open Schema

/-- The settings that the entries of a map hold, or all issues with them in the order of
the fields. -/
def ofEntries (entries : List (Document × Document)) : Reading Settings :=
  let dryRun := fieldOr false truth "dry_run" entries
  let continueOnError := fieldOr true truth "continue_on_error" entries
  let logLevel := fieldOr "WARNING" text "log_level" entries
  let stubsFolder := fieldOr none optionalText "stubs_folder" entries
  both (both (both (both (both (.ok Settings.mk) dryRun) continueOnError) logLevel) stubsFolder)
    (mapField truth "features" entries)

/-- A document at first glance. -/
def View.ofDocument : Document → View Document
  | .null => .nothing
  | .map entries => .map entries
  | v => .other v.typeName

/-- The dialect of the program. -/
def Dialect.yaml : Dialect Document Yaml.Failure (List Issue) where
  text? := Document.text?
  ofText := .text
  ofBool := .bool
  text?_ofText _ := rfl
  view := .ofDocument
  parse := Yaml.parse
  isMalformed e := e == .malformed
  validate := ofEntries

end Rollout.Settings
