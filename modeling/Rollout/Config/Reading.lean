import Rollout.Config
import Rollout.Schema

/-!
# Reading configs

The config that a piece of data describes, or all issues with it in the order of the
fields.  Fields that a config does not have are passed over.
-/

namespace Rollout

open Schema

/-- The coordinate that the entries of a map describe; a part that is not there is
empty. -/
def Coordinate.ofEntries (entries : List (Document × Document)) : Reading Coordinate :=
  both (both (both (.ok Coordinate.mk) (fieldOr "" text "project" entries))
    (fieldOr "" text "type" entries)) (fieldOr "" text "config_id" entries)

/-- The template that the entries of a map describe. -/
def Template.ofEntries (entries : List (Document × Document)) : Reading Template :=
  both (both (.ok Template.mk) (field text "id" entries)) (field text "content" entries)

/-- The kind of remote object that the entries of a map describe: the entry `kind` says
which one it is. -/
def Target.ofEntries (entries : List (Document × Document)) : Reading Target :=
  match Document.entry? "kind" entries with
  | none => .error [⟨[], .noKind⟩]
  | some (.text "classic") =>
    under "classic" (both (.ok Target.classic) (field text "api" entries))
  | some (.text "settings") =>
    under "settings" (both (both (.ok Target.settings) (field text "schema_id" entries))
      (fieldOr "" text "schema_version" entries))
  | some (.text "entity") =>
    under "entity" (both (.ok Target.entity) (field text "entities_type" entries))
  | some (.text "automation") =>
    under "automation" (both (.ok Target.automation) (field text "resource" entries))
  | some _ => .error [⟨[], .badKind⟩]

/-- A field that is a map of fields itself. -/
def readPart {α : Type} (ofEntries : List (Document × Document) → Reading α) (name : String)
    (otherwise : Mismatch) (entries : List (Document × Document)) : Reading α :=
  match Document.entry? name entries with
  | none => .error [⟨[name], .missing⟩]
  | some d =>
    match entries? d with
    | none => .error [⟨[name], otherwise⟩]
    | some es => under name (ofEntries es)

namespace Config

/-- The skip field: data cannot hold a parameter. -/
def readSkip (entries : List (Document × Document)) : Reading Skip :=
  match Document.entry? skipParameter entries with
  | none => .ok (.fixed false)
  | some d =>
    match truth d with
    | .ok b => .ok (.fixed b)
    | .error m => .error [⟨[skipParameter, "bool"], m⟩,
        ⟨[skipParameter, "is-instance[Parameter]"], .noParameter⟩]

/-- The parameters field: data cannot hold parameters, so that only a map without entries
fits. -/
def readParameters : List (Document × Document) → Reading (Table String Parameter) :=
  mapField (fun _ => .error .noParameter) "parameters"

/-- The config that the entries of a map describe. -/
def ofEntries (entries : List (Document × Document)) : Reading Config :=
  both (both (both (both (both (both (both (.ok Config.mk)
    (readPart Coordinate.ofEntries "coordinate" .noRecord entries))
    (readPart Target.ofEntries "type" .noVariant entries))
    (readPart Template.ofEntries "template" .noRecord entries))
    (readParameters entries))
    (readSkip entries))
    (fieldOr "" text "environment" entries))
    (fieldOr "" text "group" entries)

/-- The config that a piece of data describes. -/
def ofDocument (d : Document) : Reading Config :=
  match entries? d with
  | none => .error [⟨[], .noRecord⟩]
  | some entries => ofEntries entries

end Config

end Rollout
