import Rollout.Api
import Rollout.Coordinate

/-!
# Clients

A client carries requests to the platform.  It answers each one, or refuses it with a
message, and may change its own state either way.
-/

namespace Rollout

/-- A request to create or update a remote object. -/
inductive Request where
  /-- A settings object, identified by its external id. -/
  | settings (coordinate : Coordinate) (schemaId schemaVersion scope externalId content : String)
  /-- A classic config, identified by its name. -/
  | byName (api : Api) (name payload : String)
  /-- A classic config, identified by a generated id. -/
  | byId (api : Api) (id name payload : String)
  /-- A custom entity. -/
  | entity (entitiesType id payload : String)
  /-- An automation resource. -/
  | automation (resource id payload : String)
deriving DecidableEq, Repr

namespace Request

/-- The word for the operation that a request asks for. -/
def operation : Request → String
  | .settings .. => "settings"
  | .byName .. => "by_name"
  | .byId .. => "by_entity_id"
  | .entity .. => "entity"
  | .automation .. => "automation"

/-- The family of objects that the object belongs to. -/
def family : Request → String
  | .settings _ schemaId _ _ _ _ => schemaId
  | .byName api _ _ => api.id
  | .byId api _ _ _ => api.id
  | .entity entitiesType _ _ => entitiesType
  | .automation resource _ _ => resource

/-- What identifies the object within its family. -/
def identity : Request → String
  | .settings _ _ _ _ externalId _ => externalId
  | .byName _ name _ => name
  | .byId _ id _ _ => id
  | .entity _ id _ => id
  | .automation _ id _ => id

/-- The name that is sent along, or nothing. -/
def name : Request → String
  | .byName _ name _ => name
  | .byId _ _ name _ => name
  | _ => ""

/-- The payload. -/
def payload : Request → String
  | .settings _ _ _ _ _ content => content
  | .byName _ _ payload => payload
  | .byId _ _ _ payload => payload
  | .entity _ _ payload => payload
  | .automation _ _ payload => payload

end Request

/-- What the platform tells of an object. -/
structure RemoteEntity where
  /-- Its identifier. -/
  id : String
  /-- Its name, or nothing. -/
  name : String
deriving DecidableEq, Repr

/-- A way to reach the platform, with a state of type `σ`. -/
structure Client (σ : Type) where
  /-- Carries one request: the answer, or the message of a refusal, and the new state. -/
  upsert : Request → σ → Except String RemoteEntity × σ

end Rollout
