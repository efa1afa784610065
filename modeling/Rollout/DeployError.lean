import Rollout.Reference
import Rollout.Template.Render

/-!
# Deployment errors

What can be wrong with one config, as a value.  An error has a kind, a message and,
where they are known, the config, the parameter and the environment it is about.
-/

namespace Rollout

/-- Why a reference cannot be followed. -/
inductive ReferenceProblem where
  /-- For a reason that is not told. -/
  | unspecified
  /-- It leads to the config that holds it. -/
  | own
  /-- It leads to a config that has not been deployed. -/
  | undeployed
  /-- It leads to a config that is skipped. -/
  | skipped
  /-- It names a property that the config does not have. -/
  | noProperty
deriving DecidableEq, Repr

/-- The kinds of errors, with what is particular to each. -/
inductive ErrorKind where
  /-- An error of no particular kind. -/
  | unspecified
  /-- A reference cannot be followed. -/
  | reference (problem : ReferenceProblem) (referenced : Option Coordinate) (property : String)
  /-- A parameter has no value. -/
  | parameter
  /-- A config that needs a name has none. -/
  | noName
  /-- A name is not a text. -/
  | nameType
  /-- A settings config has no scope. -/
  | noScope
  /-- Another config has the same name. -/
  | duplicateName
  /-- A feature is switched off. -/
  | featureDisabled
  /-- An API is not in the catalog. -/
  | unknownApi
  /-- A placeholder of a template has no value. -/
  | placeholder (templateId key : String)
  /-- A payload is not JSON. -/
  | payload
  /-- The platform refused a payload, or the call could not be made. -/
  | remoteCall (cause : Option String)
  /-- Configs depend on each other in a loop. -/
  | cycle (members : List Coordinate)
deriving DecidableEq, Repr

/-- The word by which a problem with a reference is reported. -/
def ReferenceProblem.word : ReferenceProblem → String
  | .unspecified => "ReferenceError"
  | .own => "SelfReference"
  | .undeployed => "UnresolvedDependency"
  | .skipped => "ReferenceToSkippedConfig"
  | .noProperty => "MissingProperty"

/-- The word by which a kind of error is reported. -/
def ErrorKind.word : ErrorKind → String
  | .unspecified => "DeploymentError"
  | .reference problem _ _ => problem.word
  | .parameter => "ParameterResolution"
  | .noName => "MissingNameParameter"
  | .nameType => "InvalidNameType"
  | .noScope => "MissingScopeParameter"
  | .duplicateName => "DuplicateName"
  | .featureDisabled => "FeatureDisabled"
  | .unknownApi => "UnknownApi"
  | .placeholder _ _ => "UnresolvedPlaceholder"
  | .payload => "InvalidJson"
  | .remoteCall _ => "RemoteCallFailed"
  | .cycle _ => "CycleDetected"

/-- Something that is wrong with a config. -/
structure DeployError where
  kind : ErrorKind
  message : String
  /-- The config. -/
  coordinate : Option Coordinate := none
  parameter : Option String := none
  environment : Option String := none
deriving DecidableEq, Repr

namespace DeployError

/-- The message after the environment and the place it is about. -/
def toText (e : DeployError) : String :=
  let environment := match e.environment.bind nonempty? with
    | none => ""
    | some name => s!"(env: {name}) "
  let place := match e.coordinate, e.parameter.bind nonempty? with
    | none, _ => ""
    | some c, none => s!"[{c.toText}] "
    | some c, some parameter => s!"[{c.toText}:{parameter}] "
  environment ++ place ++ e.message

/-- The error with the config it is about filled in, if that is not known yet. -/
def locate (e : DeployError) (coordinate : Coordinate) : DeployError :=
  { e with coordinate := e.coordinate.or (some coordinate) }

/-- The error about a config in an environment, for whichever one it was noticed. -/
def stamp (e : DeployError) (coordinate : Coordinate) (environment : String) : DeployError :=
  { e.locate coordinate with environment := nonempty? environment }

/-- A placeholder of a template that has no value. -/
def ofGap (templateId : String) (gap : Template.Gap) : DeployError :=
  { kind := .placeholder templateId gap.key
    message := gap.message templateId }

/-- Configs that depend on each other in a loop, in an environment. -/
def ofCycle (members : List Coordinate) (environment : Option String) : DeployError :=
  let chain := match members with
    | [] => []
    | first :: _ => members ++ [first]
  { kind := .cycle members
    message := "cyclic dependency between configs: "
      ++ String.intercalate " -> " (chain.map Coordinate.toText)
    environment := environment }

end DeployError

end Rollout
