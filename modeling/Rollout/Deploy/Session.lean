import Rollout.Deploy.Decision
import Rollout.Stub

/-!
# Deploying one config

The decision about a config is carried out: the payload goes to the platform, unless
the deployment is only validated, and what the platform answers is entered into the
books of the environment.  A config that fails leaves no entry.
-/

namespace Rollout

/-- How a config is deployed. -/
inductive Mode (σ : Type) where
  /-- It is only checked, and the platform is left alone. -/
  | validate
  /-- It is pushed with a client. -/
  | push (client : Client σ)

/-- The books of an environment: what its configs left behind. -/
structure Books where
  /-- The entities. -/
  registry : Registry
  /-- The names that are taken. -/
  names : NameIndex
deriving Inhabited

/-- The books of an environment in which nothing has been deployed. -/
def Books.empty : Books :=
  ⟨.empty, .empty⟩

/-- What a run shares between its environments. -/
structure Session (σ : Type) where
  /-- The state of the client. -/
  client : σ
  /-- The recorder of deployed objects, if there is one. -/
  recorder : Option Recorder
  /-- The disk that the recorder writes to. -/
  disk : Disk
  /-- The lines that have been logged. -/
  log : Log

namespace Session

variable {σ : Type}

/-- The session with more lines logged. -/
def tell (s : Session σ) (log : Log) : Session σ :=
  { s with log := s.log ++ log }

end Session

namespace Config

/-- The outcome of a config that nothing has been decided about. -/
def pending (c : Config) (environment : String) : Outcome :=
  ⟨c.coordinate, environment, .pending, none, none, []⟩

/-- The outcome of a config that something is wrong with. -/
def failedOutcome (c : Config) (environment : String) (variant : Option Variant)
    (errors : List DeployError) : Outcome :=
  { c.pending environment with
    state := .failed
    variant := variant
    errors := errors.map (fun e => e.stamp c.coordinate environment) }

/-- What a config that is left out leaves behind. -/
def skippedEntity (c : Config) : Entity :=
  ⟨c.coordinate.id, c.coordinate, .empty, true⟩

/-- The outcome of a config that is left out. -/
def skippedOutcome (c : Config) (environment : String) : Outcome :=
  { c.pending environment with
    state := .skipped
    entity := some c.skippedEntity }

/-- The first of three texts that is not empty, or the last one. -/
def firstOf (name : Option String) (remote last : String) : String :=
  ((name.bind nonempty?).or (nonempty? remote)).getD last

/-- The name of what a deployed config leaves behind: its own, or else the remote one, or
else its id. -/
def entityName (c : Config) (plan : Plan) (remote : RemoteEntity) : String :=
  firstOf plan.name remote.name c.coordinate.id

/-- The property that other configs read the name from: the remote name, or else the name
of the entity, as the value that it was given by. -/
def nameValue (c : Config) (plan : Plan) (remote : RemoteEntity) : Value :=
  if remote.name ≠ "" then .text remote.name
  else match plan.name.bind nonempty? with
    | some name => (plan.properties.find? nameParameter).getD (.text name)
    | none => .text c.coordinate.id

/-- What a deployed config leaves behind. -/
def deployedEntity (c : Config) (plan : Plan) (remote : RemoteEntity) : Entity :=
  { name := c.entityName plan remote
    coordinate := c.coordinate
    properties := (plan.properties.insert idProperty (.text remote.id)).insert nameParameter
      (c.nameValue plan remote)
    skip := false }

/-- The outcome of a config that has been deployed. -/
def deployedOutcome (c : Config) (environment : String) (plan : Plan) (remote : RemoteEntity) :
    Outcome :=
  { c.pending environment with
    state := .deployed
    variant := some plan.route.variant
    entity := some (c.deployedEntity plan remote) }

/-- The stub of a deployed config. -/
def stub (c : Config) (plan : Plan) (remote : RemoteEntity) : Stub :=
  { id := remote.id
    name := (nonempty? remote.name).getD (c.entityName plan remote)
    entityId := if plan.route.isGenerated then some (Identity.uuid c.coordinate) else none }

/-- What a validated config gets in the place of a remote answer. -/
def localAnswer (c : Config) (plan : Plan) : RemoteEntity :=
  ⟨Identity.uuid c.coordinate, (plan.name.bind nonempty?).getD c.coordinate.id⟩

/-- The error for a request that was refused or could not be made. -/
def remoteError (route : Route) (cause : String) : DeployError :=
  { kind := .remoteCall (some cause)
    message := s!"failed to upsert {route.variant.word} config: {cause}" }

end Config

namespace Books

/-- The books with a config left out. -/
def addSkipped (b : Books) (c : Config) : Books :=
  { b with registry := b.registry.insert c.coordinate c.skippedEntity }

/-- The books with a config deployed.  Its name is taken if its API tells configs apart
by their names. -/
def addDeployed (b : Books) (c : Config) (plan : Plan) (remote : RemoteEntity) : Books :=
  { registry := b.registry.insert c.coordinate (c.deployedEntity plan remote)
    names := match plan.route, plan.name with
      | .byName api, some name => b.names.add api.id name
      | _, _ => b.names }

end Books

section

variable {σ : Type}

/-- A plan carried out: the remote answer or the message of the failure, and the new state
of the client. -/
def Plan.carryOut (plan : Plan) (mode : Mode σ) (c : Config) (state : σ) :
    Except String RemoteEntity × σ :=
  match mode with
  | .validate => (.ok (c.localAnswer plan), state)
  | .push client =>
    match plan.request c.coordinate with
    | .error obstacle => (.error obstacle.message, state)
    | .ok request => client.upsert request state

/-- The session with a deployed object recorded, if it is recorded at all.  A payload that
has no path of a file ends the run. -/
def Session.keepStub (s : Session σ) (mode : Mode σ) (c : Config) (plan : Plan)
    (remote : RemoteEntity) : Session σ × Option Fault :=
  match mode, s.recorder with
  | .push _, some r =>
    if r.enabled then
      let r := r.record c.coordinate.type (c.stub plan remote)
      let w := r.writePayload s.disk c.coordinate.type remote.id plan.payload
      let s := { s with recorder := some r, disk := w.disk, log := s.log ++ w.log }
      match w.result with
      | .ok _ => (s, none)
      | .error _ => (s, some .nulInPath)
    else (s, none)
  | _, _ => (s, none)

/-- What deploying one config leads to: its outcome, or what ends the run, and the new
books and session. -/
structure Deployed (σ : Type) where
  /-- The outcome. -/
  result : Except Fault Outcome
  /-- The books of the environment. -/
  books : Books
  session : Session σ

/-- A decision carried out. -/
def Decision.carryOut (d : Decision) (mode : Mode σ) (c : Config) (environment : String)
    (b : Books) (s : Session σ) : Deployed σ :=
  match d with
  | .skip => ⟨.ok (c.skippedOutcome environment), b.addSkipped c, s⟩
  | .fail variant errors => ⟨.ok (c.failedOutcome environment variant errors), b, s⟩
  | .push plan =>
    match plan.carryOut mode c s.client with
    | (.error cause, state) =>
      ⟨.ok (c.failedOutcome environment (some plan.route.variant)
          [Config.remoteError plan.route cause]),
        b, { s with client := state }⟩
    | (.ok remote, state) =>
      let b := b.addDeployed c plan remote
      match Session.keepStub { s with client := state } mode c plan remote with
      | (s, none) => ⟨.ok (c.deployedOutcome environment plan remote), b, s⟩
      | (s, some fault) => ⟨.error fault, b, s⟩

/-- Deploys one config to an environment. -/
def Config.deploy (c : Config) (conditions : Conditions) (mode : Mode σ) (environment : String)
    (b : Books) (s : Session σ) : Deployed σ :=
  let s := s.tell (c.notices conditions b.registry)
  match c.decide conditions b.registry b.names with
  | .error fault => ⟨.error fault, b, s⟩
  | .ok d => d.carryOut mode c environment b s

end

end Rollout
