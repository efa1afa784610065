import Rollout.Json.Basic
import Rollout.Run.Report

/-!
# Reports as JSON

Errors, outcomes and reports for other programs to read.  The books of an environment are
left out.
-/

namespace Rollout

/-- What is particular to a kind of error. -/
def ErrorKind.fields : ErrorKind → List (String × Json)
  | .reference _ referenced property =>
    [("referenced", .ofText? (referenced.map Coordinate.toText)), ("property", .ofText property)]
  | .cycle members => [("cycle", .ofTexts (members.map Coordinate.toText))]
  | _ => []

/-- An error as JSON. -/
def DeployError.toJson (e : DeployError) : Json :=
  .ofFields ([("kind", .ofText e.kind.word), ("message", .ofText e.message),
    ("coordinate", .ofText? (e.coordinate.map Coordinate.toText)),
    ("parameter", .ofText? e.parameter), ("environment", .ofText? e.environment)]
    ++ e.kind.fields)

/-- An outcome as JSON. -/
def Outcome.toJson (o : Outcome) : Json :=
  .ofFields [("coordinate", .ofText o.coordinate.toText), ("environment", .ofText o.environment),
    ("state", .ofText o.state.word), ("variant", .ofText? (o.variant.map Variant.word)),
    ("entity_name", .ofText? (o.entity.map Entity.name)),
    ("errors", .array (o.errors.map DeployError.toJson))]

/-- The report of an environment as JSON. -/
def EnvironmentReport.toJson (r : EnvironmentReport) : Json :=
  .ofFields [("environment", .ofText r.environment), ("status", .ofText r.status),
    ("total", .ofNat r.outcomes.length), ("deployed", .ofNat (r.count .deployed)),
    ("skipped", .ofNat (r.count .skipped)), ("failed", .ofNat (r.count .failed)),
    ("outcomes", .array (r.outcomes.map Outcome.toJson)),
    ("errors", .array (r.errors.map DeployError.toJson))]

/-- A report as JSON. -/
def Report.toJson (r : Report) : Json :=
  .ofFields [("dry_run", .bool r.dryRun), ("status", .ofText r.status),
    ("cancelled", .bool r.cancelled), ("aborted", .bool r.aborted),
    ("environments", .ofFields (r.environments.map EnvironmentReport.toJson).entries)]

end Rollout
