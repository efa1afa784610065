import Rollout.Client
import Rollout.Text.Quoted

/-!
# The recording client

A client that keeps a record of the requests and makes its answers up.  It refuses the
objects that it has been told to refuse, or everything.
-/

namespace Rollout

/-- The state of the recording client. -/
structure Recording where
  name : String
  /-- The identities that are refused, with the messages. -/
  refused : Table String String
  /-- The message with which everything is refused, if it is. -/
  outage : Option String
  /-- The requests so far, oldest first. -/
  requests : List Request

namespace Recording

/-- The client of a name, with nothing recorded and nothing refused. -/
def ofName (name : String) : Recording :=
  ⟨name, .empty, none, []⟩

/-- The client as it is shown in messages. -/
def describe (r : Recording) : String :=
  s!"<MockClient name={Text.quote r.name}>"

/-- The message of a refusal when none is given. -/
def refusal : String := "Mock failure"

/-- The message of an outage when none is given. -/
def outageMessage : String := "Mock outage"

/-- The client that refuses an identity from now on. -/
def refuse (r : Recording) (identity : String) (message : String) : Recording :=
  { r with refused := r.refused.insert identity message }

/-- The client that refuses everything from now on. -/
def refuseAll (r : Recording) (message : String) : Recording :=
  { r with outage := some message }

/-- The client without its record and its refusals. -/
def reset (r : Recording) : Recording :=
  { r with refused := .empty, outage := none, requests := [] }

/-- The requests for an operation, oldest first. -/
def requestsFor (r : Recording) (operation : String) : List Request :=
  r.requests.filter (fun request => request.operation = operation)

/-- The answer to a request when `count` requests have been recorded with it. -/
def answer (count : Nat) (request : Request) : RemoteEntity :=
  match request with
  | .settings _ _ _ _ externalId _ => ⟨s!"settings-{count}", externalId⟩
  | .byName api name _ => ⟨s!"{api.id}-{count}", name⟩
  | .byId _ id name _ => ⟨id, name⟩
  | .entity _ id _ => ⟨id, id⟩
  | .automation _ id _ => ⟨id, id⟩

/-- The message with which a request is refused, if it is. -/
def refusal? (r : Recording) (request : Request) : Option String :=
  match r.outage with
  | some message => some message
  | none => r.refused.find? request.identity

/-- The recording client. -/
def client : Client Recording where
  upsert request r :=
    let r := { r with requests := r.requests ++ [request] }
    match r.refusal? request with
    | some message => (.error message, r)
    | none => (.ok (answer r.requests.length request), r)

end Recording

end Rollout
