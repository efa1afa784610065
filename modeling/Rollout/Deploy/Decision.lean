import Rollout.Client
import Rollout.Deploy.Outcome
import Rollout.Feature
import Rollout.Identity
import Rollout.Json.Reader
import Rollout.Log.Line
import Rollout.Resolution

/-!
# Decisions

What is to be done with a config: leave it out, report what is wrong with it, or push
a payload.  The decision is taken from what is known beforehand, without the platform.
-/

namespace Rollout

/-- What a deployment depends on besides the configs. -/
structure Conditions where
  /-- The known APIs. -/
  catalog : Catalog
  /-- The variables of the process. -/
  vars : Variables
  /-- The switch for automation resources. -/
  automation : Feature
  /-- How many lists and maps inside one another there is room for where a value is written, if
  that is limited. -/
  writing : Option Nat
  /-- How many arrays and objects inside one another there is room for where a payload is read, if
  that is limited. -/
  reading : Option Nat

/-- What ends a run besides the errors that are reported. -/
inductive Fault where
  /-- An integer has more digits than are read or written. -/
  | longInteger
  /-- There are more lists and maps, or arrays and objects, inside one another than there is room
  for. -/
  | tooDeep
  /-- A path holds a character that no path may hold. -/
  | nulInPath
  /-- Something does not hold that always should. -/
  | broken
deriving DecidableEq, Repr

/-- The way that a config takes to the platform. -/
inductive Route where
  /-- As a settings object of a schema. -/
  | settings (schemaId schemaVersion : String)
  /-- By its name, through a classic API. -/
  | byName (api : Api)
  /-- By a generated id, through a classic API. -/
  | byId (api : Api)
  /-- As a custom entity of an entities type. -/
  | entity (entitiesType : String)
  /-- As an automation resource. -/
  | automation (resource : String)
deriving DecidableEq, Repr

namespace Route

/-- The kind of request that a way leads to. -/
def variant : Route → Variant
  | .settings _ _ => .settings
  | .byName _ => .classicUnique
  | .byId _ => .classicNonUnique
  | .entity _ => .entity
  | .automation _ => .automation

/-- The classic API on the way. -/
def api? : Route → Option Api
  | .byName api => some api
  | .byId api => some api
  | _ => none

/-- Whether the object is known to the platform by a generated id. -/
def isGenerated : Route → Bool
  | .settings _ _ => false
  | .byName _ => false
  | _ => true

end Route

/-- The way of a config to the platform; a classic one has none if its API is not in the
catalog. -/
def Target.route? (catalog : Catalog) : Target → Option Route
  | .settings schemaId schemaVersion => some (.settings schemaId schemaVersion)
  | .entity entitiesType => some (.entity entitiesType)
  | .automation resource => some (.automation resource)
  | .classic api =>
    (catalog.find? api).map (fun api => if api.requiresUniqueName then .byName api else .byId api)

/-- What is pushed to the platform for a config. -/
structure Plan where
  /-- The way it takes. -/
  route : Route
  /-- The name of the config, if it has one. -/
  name : Option String
  /-- The values of its parameters. -/
  properties : Properties
  /-- The text of its payload. -/
  payload : String

/-- What is to be done with a config. -/
inductive Decision where
  /-- It is left out. -/
  | skip
  /-- It is reported. -/
  | fail (variant : Option Variant) (errors : List DeployError)
  /-- It is pushed. -/
  | push (plan : Plan)

namespace Config

/-- An API that is not in the catalog. -/
def unknownApi (api : String) : DeployError :=
  { kind := .unknownApi, message := s!"unknown API `{api}`" }

/-- The switch for automation resources is off. -/
def automationDisabled (automation : Feature) : DeployError :=
  { kind := .featureDisabled
    message := s!"automation resources are disabled; set {automation.var}=true to deploy them" }

/-- A name that another config has in the same API. -/
def duplicateName (api : Api) (name : String) : DeployError :=
  { kind := .duplicateName
    message := s!"a config named `{name}` was already deployed to API `{api.id}` in this run"
    parameter := some nameParameter }

/-- A payload that is not JSON. -/
def malformedPayload (templateId : String) (place : Json.Malformed) : DeployError :=
  { kind := .payload
    message := s!"rendered template `{templateId}` is not valid JSON: {place.message}" }

/-- Whether there is no room to settle the skip parameter of a config. -/
def skipIsTooDeep (c : Config) (conditions : Conditions) (registry : Registry) : Bool :=
  conditions.writing.any (fun n => c.skipExceeds n conditions.vars registry)

/-- Whether there is no room to settle the parameters of a config. -/
def parametersAreTooDeep (c : Config) (conditions : Conditions) (registry : Registry) : Bool :=
  conditions.writing.any (fun n => c.parametersExceed n conditions.vars registry)

/-- Whether a name that is declared has no value. -/
def nameIsUnresolved (c : Config) (values : Properties) : Bool :=
  c.hasName && !values.contains nameParameter

/-- The name that a config takes on its way, or what is wrong with it.  A classic config
needs one, save that an error about its value is not repeated; any other config may have
one. -/
def nameOn (c : Config) (route : Route) (values : Properties) :
    Except DeployError (Option String) :=
  match route.api? with
  | some _ =>
    if c.nameIsUnresolved values then .ok none
    else (c.name values).map some
  | none =>
    if values.contains nameParameter then (c.name values).map some
    else .ok none

/-- What is wrong with the name on the way. -/
def nameErrors (c : Config) (route : Route) (values : Properties) : List DeployError :=
  match c.nameOn route values with
  | .ok _ => []
  | .error e => [e]

/-- Whether the name of a config is taken in its API. -/
def isDuplicate (names : NameIndex) (route : Route) (name : Option String) :
    Except Fault (Option DeployError) :=
  match route with
  | .byName api =>
    match name with
    | none => .error .broken
    | some name => .ok (if names.has api.id name then some (duplicateName api name) else none)
  | _ => .ok none

/-- The payload of a config with the values of its parameters made safe, or what is wrong
with it. -/
def payload (c : Config) (conditions : Conditions) (values : Properties) :
    Except Fault (Except DeployError String) :=
  if conditions.writing.any (fun n => c.template.exceeds n conditions.vars values.escape) then
    .error .tooDeep
  else match c.template.render conditions.vars values.escape with
  | .error (.unresolved gap) => .ok (.error (.ofGap c.template.id gap))
  | .error (.unwritable .longInteger) => .error .longInteger
  | .ok text =>
    if conditions.reading.any (fun n => Json.exceeds n text.toList) then .error .tooDeep
    else match Json.parse text.toList with
    | .error (.malformed place) => .ok (.error (malformedPayload c.template.id place))
    | .error .longInteger => .error .longInteger
    | .ok _ => .ok (.ok text)

/-- What is to be done with a config on its way, once its parameters are resolved. -/
def decideResolved (c : Config) (conditions : Conditions) (names : NameIndex) (route : Route)
    (values : Properties) (name : Option String) : Except Fault Decision :=
  match isDuplicate names route name with
  | .error fault => .error fault
  | .ok (some e) => .ok (.fail (some route.variant) [e])
  | .ok none =>
    match c.payload conditions values with
    | .error fault => .error fault
    | .ok (.error e) => .ok (.fail (some route.variant) [e])
    | .ok (.ok payload) => .ok (.push ⟨route, name, values, payload⟩)

/-- What is to be done with a config on its way. -/
def decideOn (c : Config) (conditions : Conditions) (registry : Registry) (names : NameIndex)
    (route : Route) : Except Fault Decision :=
  if route.variant = .automation && !conditions.automation.enabled conditions.vars then
    .ok (.fail (some .automation) [automationDisabled conditions.automation])
  else if c.parametersAreTooDeep conditions registry then .error .tooDeep
  else
    let values := c.values conditions.vars registry
    match c.parameterErrors conditions.vars registry ++ c.nameErrors route values with
    | [] =>
      let name := (c.nameOn route values).toOption.join
      c.decideResolved conditions names route values name
    | errors => .ok (.fail (some route.variant) errors)

/-- What is to be done with a config. -/
def decide (c : Config) (conditions : Conditions) (registry : Registry) (names : NameIndex) :
    Except Fault Decision :=
  if c.skipIsTooDeep conditions registry then .error .tooDeep
  else match c.isSkipped conditions.vars registry with
  | .error errors => .ok (.fail none errors)
  | .ok true => .ok .skip
  | .ok false =>
    match c.target.route? conditions.catalog with
    | none => .ok (.fail none [unknownApi c.target.label])
    | some route => c.decideOn conditions registry names route

/-- The warning about an API that another one replaces. -/
def deprecation (c : Config) (api : Api) : LogLine :=
  ⟨.warning, s!"API `{api.id}` used by {c.coordinate.toText} is deprecated, "
    ++ s!"use `{api.deprecatedBy}` instead"⟩

/-- What is logged when the way of a config has been found. -/
def notices (c : Config) (conditions : Conditions) (registry : Registry) : Log :=
  if c.skipIsTooDeep conditions registry then []
  else match c.isSkipped conditions.vars registry with
  | .ok false =>
    match (c.target.route? conditions.catalog).bind Route.api? with
    | some api => if api.isDeprecated then [c.deprecation api] else []
    | none => []
  | _ => []

end Config

namespace Plan

/-- Why a request cannot be made. -/
inductive Obstacle where
  /-- The scope of a settings object has no text. -/
  | unwritable (reason : Unwritable)
  /-- A settings object has no scope. -/
  | noScope
  /-- A classic config has no name. -/
  | noName
deriving DecidableEq, Repr

/-- The wording of an obstacle. -/
def Obstacle.message : Obstacle → String
  | .unwritable reason => reason.message
  | .noScope => Text.quote scopeParameter
  | .noName => ""

/-- The request that pushes a plan for a config. -/
def request (plan : Plan) (c : Coordinate) : Except Obstacle Request :=
  let id := Identity.uuid c
  match plan.route with
  | .settings schemaId schemaVersion =>
    match plan.properties.find? scopeParameter with
    | none => .error .noScope
    | some scope =>
      match scope.display with
      | .error reason => .error (.unwritable reason)
      | .ok scope =>
        .ok (.settings c schemaId schemaVersion scope (Identity.externalId c) plan.payload)
  | .byName api =>
    match plan.name with
    | none => .error .noName
    | some name => .ok (.byName api name plan.payload)
  | .byId api =>
    match plan.name with
    | none => .error .noName
    | some name => .ok (.byId api id name plan.payload)
  | .entity entitiesType => .ok (.entity entitiesType id plan.payload)
  | .automation resource => .ok (.automation resource id plan.payload)

end Plan

end Rollout
