import Rollout.DeployError
import Rollout.Entity

/-!
# Outcomes

What became of one config.
-/

namespace Rollout

/-- The states that a config passes through. -/
inductive State where
  /-- Nothing has been decided. -/
  | pending
  /-- It was left out. -/
  | skipped
  /-- Something was wrong with it. -/
  | failed
  /-- It was deployed, or found fit for it. -/
  | deployed
deriving DecidableEq, Repr

/-- The word for a state. -/
def State.word : State → String
  | .pending => "pending"
  | .skipped => "skipped"
  | .failed => "failed"
  | .deployed => "deployed"

/-- The kinds of requests that configs lead to. -/
inductive Variant where
  | settings
  | classicUnique
  | classicNonUnique
  | entity
  | automation
deriving DecidableEq, Repr

/-- The word for a kind of request. -/
def Variant.word : Variant → String
  | .settings => "settings"
  | .classicUnique => "classic_unique"
  | .classicNonUnique => "classic_non_unique"
  | .entity => "entity"
  | .automation => "automation"

/-- What became of a config. -/
structure Outcome where
  /-- The config. -/
  coordinate : Coordinate
  /-- The environment it was deployed to, or nothing. -/
  environment : String
  /-- The state it ended in. -/
  state : State
  /-- The kind of request it leads to, as far as that came to be known. -/
  variant : Option Variant
  /-- What it left behind. -/
  entity : Option Entity
  /-- What was wrong with it. -/
  errors : List DeployError

/-- Whether nothing was wrong. -/
def Outcome.ok (o : Outcome) : Bool :=
  o.state = .deployed || o.state = .skipped

end Rollout
