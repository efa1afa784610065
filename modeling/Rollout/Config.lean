import Rollout.Api
import Rollout.Parameter

/-!
# Configs

A config is a template with the parameters that fill it and the kind of remote object
that it becomes.
-/

namespace Rollout

/-- The kind of remote object that a config becomes. -/
inductive Target where
  /-- A config of a classic API. -/
  | classic (api : String)
  /-- A settings object of a schema. -/
  | settings (schemaId schemaVersion : String)
  /-- A custom entity of an entities type. -/
  | entity (entitiesType : String)
  /-- An automation resource. -/
  | automation (resource : String)
deriving DecidableEq, Repr, Inhabited

namespace Target

/-- The word for a kind of remote object. -/
def word : Target → String
  | .classic _ => "classic"
  | .settings _ _ => "settings"
  | .entity _ => "entity"
  | .automation _ => "automation"

/-- A short label of a remote object. -/
def label : Target → String
  | .classic api => api
  | .settings schemaId _ => schemaId
  | .entity entitiesType => "entity:" ++ entitiesType
  | .automation resource => "automation:" ++ resource

/-- Whether the object is a settings object. -/
def isSettings : Target → Bool
  | .settings _ _ => true
  | _ => false

end Target

/-- Whether a config is left out. -/
inductive Skip where
  /-- That is known beforehand. -/
  | fixed (b : Bool)
  /-- That depends on the value of a parameter. -/
  | parameter (p : Parameter)
deriving Inhabited

/-- A thing that can be deployed. -/
structure Config where
  /-- What it is called. -/
  coordinate : Coordinate
  /-- What it becomes. -/
  target : Target
  /-- The text of its payload. -/
  template : Template
  /-- The parameters, in the order in which they are declared. -/
  parameters : Table String Parameter
  /-- Whether it is left out. -/
  skip : Skip
  /-- The environment, or nothing. -/
  environment : String
  /-- The group, or nothing. -/
  group : String
deriving Inhabited

/-- The parameter that a config is named by. -/
def nameParameter : String := "name"

/-- The parameter that binds a settings object. -/
def scopeParameter : String := "scope"

/-- The parameter that leaves a config out. -/
def skipParameter : String := "skip"

/-- The property that holds the remote identifier. -/
def idProperty : String := "id"

namespace Config

/-- The references of the skip parameter. -/
def skipReferences (c : Config) : List Reference :=
  match c.skip with
  | .fixed _ => []
  | .parameter p => p.references

/-- The references of all parameters in order, those of the skip parameter last. -/
def allReferences (c : Config) : List Reference :=
  c.parameters.values.flatMap Parameter.references ++ c.skipReferences

/-- The coordinates that a config depends on, each once, in the order in which they
first occur. -/
def references (c : Config) : List Coordinate :=
  Template.distinct (c.allReferences.map Reference.target)

/-- Whether a config declares a name. -/
def hasName (c : Config) : Bool :=
  c.parameters.contains nameParameter

end Config

end Rollout
