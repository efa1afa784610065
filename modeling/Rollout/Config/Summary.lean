import Rollout.Config
import Rollout.Json.Basic

/-!
# Summaries of configs

A config in short, as JSON.
-/

namespace Rollout.Config

/-- A config in short.  Its parameters are sorted. -/
def summary (c : Config) : Json :=
  .ofFields [("coordinate", .ofText c.coordinate.toText), ("type", .ofText c.target.word),
    ("environment", .ofText c.environment), ("group", .ofText c.group),
    ("parameters", .ofTexts (c.parameters.keys.mergeSort (fun a b => a ≤ b))),
    ("references", .ofTexts (c.references.map Coordinate.toText))]

end Rollout.Config
