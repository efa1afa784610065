import Rollout.DeployError
import Rollout.Entity

/-!
# Parameters

A parameter is a way to obtain a value: it is given, or read from a variable, or read
from what another config left behind, or made of other parameters.  It declares the
references that it depends on, and it resolves to a value.
-/

namespace Rollout

/-- Why a parameter has no value. -/
inductive ResolveFailure where
  /-- For a reason that is an error of its own. -/
  | deploy (error : DeployError)
  /-- Because of a value that cannot be used. -/
  | badValue (message : String)
  /-- Because of a value of a type that cannot be used. -/
  | badType (message : String)
  /-- Because of a value that has no text. -/
  | unwritable (reason : Unwritable)
deriving DecidableEq, Repr

/-- A way to obtain a value. -/
inductive Parameter where
  /-- A value that is given. -/
  | value (v : Value)
  /-- The text of a variable, or else a value if one is given. -/
  | fromVariable (name : String) (default : Option Value)
  /-- A property of another config. -/
  | reference (r : Reference)
  /-- The values of other parameters, as the texts of a JSON array. -/
  | list (items : List Parameter)
  /-- A way that leads to no value. -/
  | failing (failure : ResolveFailure)
deriving Inhabited

/-- The parameter that is being resolved: its config, its name and the environment of
the config. -/
structure Site where
  /-- The config. -/
  coordinate : Coordinate
  /-- The name of the parameter. -/
  parameter : String
  /-- The environment, or nothing. -/
  environment : String
deriving DecidableEq, Repr

namespace Site

/-- An error about the parameter. -/
def error (site : Site) (kind : ErrorKind) (message : String) : DeployError :=
  { kind, message
    coordinate := some site.coordinate
    parameter := some site.parameter
    environment := nonempty? site.environment }

/-- An error about a reference of the parameter. -/
def referenceError (site : Site) (problem : ReferenceProblem) (r : Reference)
    (message : String) : DeployError :=
  site.error (.reference problem (some r.target) r.property) message

/-- A variable that the parameter needs is not set. -/
def noVariable (site : Site) (name : String) : DeployError :=
  site.error .parameter s!"environment variable `{name}` not set"

/-- A config that the parameter needs has left nothing behind. -/
def noEntity (site : Site) (r : Reference) : DeployError :=
  site.referenceError .undeployed r s!"referenced config `{r.target.toText}` has not been deployed"

/-- A config that the parameter needs is skipped. -/
def skipped (site : Site) (r : Reference) : DeployError :=
  site.referenceError .skipped r s!"referenced config `{r.target.toText}` is skipped"

/-- A config that the parameter needs does not have the property. -/
def noProperty (site : Site) (r : Reference) : DeployError :=
  site.referenceError .noProperty r
    s!"referenced config `{r.target.toText}` has no property `{r.property}`"

end Site

namespace Parameter

mutual

/-- The references that a parameter depends on, in order. -/
def references : Parameter → List Reference
  | .reference r => [r]
  | .list items => references.items items
  | _ => []

/-- The references that a list of parameters depends on, in order. -/
def references.items : List Parameter → List Reference
  | [] => []
  | p :: rest => references p ++ references.items rest

end

mutual

/-- Whether a parameter is made of ways that may lead to a value. -/
def isRegular : Parameter → Bool
  | .failing _ => false
  | .list items => isRegular.items items
  | _ => true

/-- Whether the parameters of a list are made of ways that may lead to a value. -/
def isRegular.items : List Parameter → Bool
  | [] => true
  | p :: rest => isRegular p && isRegular.items rest

end

/-- The value of a reference among the entities of an environment. -/
def follow (registry : Registry) (site : Site) (r : Reference) : Except DeployError Value :=
  match registry.find? r.target with
  | none => .error (site.noEntity r)
  | some entity =>
    if entity.skip then .error (site.skipped r)
    else match entity.properties.find? r.property with
      | none => .error (site.noProperty r)
      | some v => .ok v

/-- The value of a variable, or else the value that is given. -/
def read (vars : Variables) (site : Site) (name : String) (default : Option Value) :
    Except DeployError Value :=
  match vars.find? name with
  | some s => .ok (.text s)
  | none =>
    match default with
    | some v => .ok v
    | none => .error (site.noVariable name)

/-- A text as a JSON string. -/
def quoted (s : String) : String :=
  String.ofList (Json.stringText .verbatim (Json.points s))

/-- The text of a value as a JSON string. -/
def quotedFormat (v : Value) : Except ResolveFailure String :=
  match v.format with
  | .ok s => .ok (quoted s)
  | .error reason => .error (.unwritable reason)

mutual

/-- The value of a parameter. -/
def resolve (vars : Variables) (registry : Registry) (site : Site) :
    Parameter → Except ResolveFailure Value
  | .value v => .ok v
  | .fromVariable name default => (read vars site name default).mapError .deploy
  | .reference r => (follow registry site r).mapError .deploy
  | .list items =>
    match resolve.items vars registry site items with
    | .error failure => .error failure
    | .ok texts => .ok (.fragment (String.intercalate ", " texts))
  | .failing failure => .error failure

/-- The values of a list of parameters as JSON strings, up to the first that has none. -/
def resolve.items (vars : Variables) (registry : Registry) (site : Site) :
    List Parameter → Except ResolveFailure (List String)
  | [] => .ok []
  | p :: rest =>
    match resolve vars registry site p with
    | .error failure => .error failure
    | .ok v =>
      match quotedFormat v with
      | .error failure => .error failure
      | .ok s =>
        match resolve.items vars registry site rest with
        | .error failure => .error failure
        | .ok texts => .ok (s :: texts)

end

mutual

/-- Whether more than so many lists and maps inside one another are entered to resolve a
parameter. -/
def exceeds (levels : Nat) (vars : Variables) (registry : Registry) (site : Site) :
    Parameter → Bool
  | .list items => exceeds.items levels vars registry site items
  | _ => false

/-- Whether more than so many levels are entered to resolve a list of parameters as JSON strings,
up to the first that has none. -/
def exceeds.items (levels : Nat) (vars : Variables) (registry : Registry) (site : Site) :
    List Parameter → Bool
  | [] => false
  | p :: rest =>
    exceeds levels vars registry site p
      || match resolve vars registry site p with
        | .error _ => false
        | .ok v =>
          v.exceeds levels
            || ((quotedFormat v).isOk && exceeds.items levels vars registry site rest)

end

/-- A parameter as it is shown in messages; a way that leads to no value is shown by what it is
made by. -/
def describe? : Parameter → Option String
  | .reference r => some s!"<ReferenceParameter {r.toText}>"
  | .value _ => some "<ValueParameter type='value'>"
  | .fromVariable _ _ => some "<EnvironmentParameter type='environment'>"
  | .list _ => some "<ListParameter type='list'>"
  | .failing _ => none

end Parameter

end Rollout
