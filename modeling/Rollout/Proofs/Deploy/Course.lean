import Rollout.Client.Recording
import Rollout.Deploy.Session
import Rollout.Proofs.Deploy.Decision

/-!
# The course of a deployment

A deployment takes one of six courses, and each course says what becomes of the config,
the books and the session.  A config that fails leaves the books and the recorder as
they were, and any other one changes the books under its own coordinate and name alone.
-/

namespace Rollout

variable {σ : Type}

/-- What no request changes of the state of the client is as before when a plan is carried
out. -/
theorem Plan.carryOut_kept
    {α : Type} {f : σ → α} {mode : Mode σ}
    (hmode : ∀ client, mode = .push client →
      ∀ request state, f (client.upsert request state).2 = f state)
    (plan : Plan) (c : Config) (state : σ) :
  f (plan.carryOut mode c state).2 = f state
  := by
  cases mode with
  | validate => rfl
  | push client =>
    rw [carryOut.eq_def]
    dsimp only
    split
    · rfl
    · apply hmode client rfl

/-- To record a deployed object leaves the state of the client as it was. -/
theorem Session.client_keepStub
    (s : Session σ) (mode : Mode σ) (c : Config) (plan : Plan) (remote : RemoteEntity) :
  (s.keepStub mode c plan remote).1.client = s.client
  := by
  rw [keepStub.eq_def]
  split
  · split
    · dsimp only
      split
      · rfl
      · rfl
    · rfl
  · rfl

theorem Session.client_of_keepStub
    {s s' : Session σ} {mode : Mode σ} {c : Config} {plan : Plan} {remote : RemoteEntity}
    {fault : Option Fault} (h : s.keepStub mode c plan remote = (s', fault)) :
  s'.client = s.client
  := by
  rw [← s.client_keepStub mode c plan remote, h]

namespace Config

/-- The courses that a deployment takes, with what each leads to. -/
inductive Course (c : Config) (conditions : Conditions) (mode : Mode σ) (environment : String)
    (b : Books) (s : Session σ) : Deployed σ → Prop where
  /-- A text that is not to be read or written ends the run. -/
  | fault {fault : Fault} (decided : c.decide conditions b.registry b.names = .error fault) :
      Course c conditions mode environment b s
        ⟨.error fault, b, s.tell (c.notices conditions b.registry)⟩
  /-- The config is left out. -/
  | skipped (skipped : c.isSkipped conditions.vars b.registry = .ok true) :
      Course c conditions mode environment b s
        ⟨.ok (c.skippedOutcome environment), b.addSkipped c,
          s.tell (c.notices conditions b.registry)⟩
  /-- Something is wrong with the config. -/
  | failed {variant : Option Variant} {errors : List DeployError}
      (objection : c.Objection conditions b.registry b.names variant errors) :
      Course c conditions mode environment b s
        ⟨.ok (c.failedOutcome environment variant errors), b,
          s.tell (c.notices conditions b.registry)⟩
  /-- The request for the config is refused, or it cannot be made. -/
  | refused {plan : Plan} {cause : String} {state : σ}
      (passes : c.Passes conditions b.registry b.names plan)
      (carried : plan.carryOut mode c s.client = (.error cause, state)) :
      Course c conditions mode environment b s
        ⟨.ok (c.failedOutcome environment (some plan.route.variant)
          [remoteError plan.route cause]), b,
          { s.tell (c.notices conditions b.registry) with client := state }⟩
  /-- The config is deployed. -/
  | deployed {plan : Plan} {remote : RemoteEntity} {state : σ} {s' : Session σ}
      (passes : c.Passes conditions b.registry b.names plan)
      (carried : plan.carryOut mode c s.client = (.ok remote, state))
      (kept : Session.keepStub { s.tell (c.notices conditions b.registry) with client := state }
        mode c plan remote = (s', none)) :
      Course c conditions mode environment b s
        ⟨.ok (c.deployedOutcome environment plan remote), b.addDeployed c plan remote, s'⟩
  /-- The config is deployed, and the payload cannot be written. -/
  | unwritten {plan : Plan} {remote : RemoteEntity} {state : σ} {s' : Session σ} {fault : Fault}
      (passes : c.Passes conditions b.registry b.names plan)
      (carried : plan.carryOut mode c s.client = (.ok remote, state))
      (kept : Session.keepStub { s.tell (c.notices conditions b.registry) with client := state }
        mode c plan remote = (s', some fault)) :
      Course c conditions mode environment b s
        ⟨.error fault, b.addDeployed c plan remote, s'⟩

/-- Every deployment takes one of the courses. -/
theorem course_deploy
    (c : Config) (conditions : Conditions) (mode : Mode σ) (environment : String) (b : Books)
    (s : Session σ) :
  c.Course conditions mode environment b s (c.deploy conditions mode environment b s)
  := by
  have hjudged := c.judged_decide conditions b.registry b.names
  simp only [deploy]
  cases hdecide : c.decide conditions b.registry b.names with
  | error fault => apply Course.fault hdecide
  | ok decision =>
    rw [hdecide] at hjudged
    cases hjudged with
    | skip skipped => apply Course.skipped skipped
    | fail objection => apply Course.failed objection
    | push passes =>
      rename_i plan
      simp only [Decision.carryOut, Session.tell]
      cases hcarry : plan.carryOut mode c s.client with
      | mk answer state =>
        cases answer with
        | error cause => apply Course.refused passes hcarry
        | ok remote =>
          dsimp only
          split
          · rename_i hkept
            apply Course.deployed passes hcarry hkept
          · rename_i hkept
            apply Course.unwritten passes hcarry hkept

/-- A config that is deployed passes every check. -/
theorem Course.exists_passes
    {c : Config} {conditions : Conditions} {mode : Mode σ} {environment : String} {b : Books}
    {s : Session σ} {d : Deployed σ} {o : Outcome}
    (hcourse : c.Course conditions mode environment b s d) (h : d.result = .ok o)
    (hstate : o.state = .deployed) :
  ∃ plan, c.Passes conditions b.registry b.names plan
  := by
  cases hcourse with
  | fault => cases h
  | unwritten => cases h
  | skipped | failed | refused =>
    cases h
    cases hstate
  | deployed passes => exact ⟨_, passes⟩

/-- A config that is reported as lacking a dependency refers to one that has left nothing
behind. -/
theorem Course.missing
    {c : Config} {conditions : Conditions} {mode : Mode σ} {environment : String} {b : Books}
    {s : Session σ} {d : Deployed σ} {o : Outcome}
    (hcourse : c.Course conditions mode environment b s d) (h : d.result = .ok o)
    (hregular : c.IsRegular) {e : DeployError} (he : e ∈ o.errors)
    {referenced : Option Coordinate} {property : String}
    (hkind : e.kind = .reference .undeployed referenced property) :
  ∃ t ∈ c.references, referenced = some t ∧ t ≠ c.coordinate ∧ b.registry.find? t = none
  := by
  cases hcourse with
  | fault => cases h
  | unwritten => cases h
  | skipped | deployed =>
    cases h
    cases he
  | failed objection =>
    cases h
    obtain ⟨e, herrors, rfl⟩ := List.mem_map.mp he
    apply objection.missing hregular herrors hkind
  | refused =>
    cases h
    obtain ⟨e, herrors, rfl⟩ := List.mem_map.mp he
    obtain rfl := List.mem_singleton.mp herrors
    cases hkind

/-- For a config that does not pass every check the mode is of no account. -/
theorem deploy_eq_of_not_passes
    {c : Config} {conditions : Conditions} {environment : String} {b : Books} {s : Session σ}
    (h : ∀ plan, ¬ c.Passes conditions b.registry b.names plan) (mode mode' : Mode σ) :
  c.deploy conditions mode environment b s = c.deploy conditions mode' environment b s
  := by
  simp only [deploy]
  cases hdecide : c.decide conditions b.registry b.names with
  | error fault => rfl
  | ok decision =>
    cases decision with
    | skip => rfl
    | fail => rfl
    | push plan => exact absurd (passes_of_decide hdecide) (h plan)

/-! ### What stays as it was -/

/-- What no request changes of the state of the client is as before the deployment. -/
theorem Course.client_kept
    {α : Type} {f : σ → α} {c : Config} {conditions : Conditions} {mode : Mode σ}
    {environment : String} {b : Books} {s : Session σ} {d : Deployed σ}
    (hmode : ∀ client, mode = .push client →
      ∀ request state, f (client.upsert request state).2 = f state)
    (hcourse : c.Course conditions mode environment b s d) :
  f d.session.client = f s.client
  := by
  have hcarry : ∀ {plan : Plan} {answer state}, plan.carryOut mode c s.client = (answer, state) →
      f state = f s.client := by
    intro plan answer state h
    rw [← plan.carryOut_kept hmode c s.client, h]
  cases hcourse with
  | fault | skipped | failed => rfl
  | refused passes carried => apply hcarry carried
  | deployed passes carried kept =>
    rw [Session.client_of_keepStub kept]
    apply hcarry carried
  | unwritten passes carried kept =>
    rw [Session.client_of_keepStub kept]
    apply hcarry carried

/-- A validation leaves the state of the client as it was. -/
theorem Course.client_validate
    {c : Config} {conditions : Conditions} {environment : String} {b : Books} {s : Session σ}
    {d : Deployed σ} (hcourse : c.Course conditions .validate environment b s d) :
  d.session.client = s.client
  := by
  apply hcourse.client_kept (f := id)
  intro client hmode
  cases hmode

/-- What the state of an outcome says about its errors and its entity, and about the books
and the recorder after the deployment. -/
structure Contained (c : Config) (conditions : Conditions) (b : Books) (s : Session σ)
    (o : Outcome) (d : Deployed σ) : Prop where
  not_pending : o.state ≠ .pending
  failed_iff_errors : o.state = .failed ↔ o.errors ≠ []
  failed_iff_entity : o.state = .failed ↔ o.entity = none
  /-- A failure leaves everything as it was. -/
  failed : o.state = .failed →
    d.books = b ∧ d.session.recorder = s.recorder ∧ d.session.disk = s.disk
  /-- A config that is left out enters a skipped entity without properties. -/
  skipped : o.state = .skipped →
    d.session.recorder = s.recorder ∧ d.session.disk = s.disk ∧ d.books.names = b.names
      ∧ ∃ e, o.entity = some e ∧ e.skip = true ∧ e.properties = .empty
        ∧ d.books.registry = b.registry.insert c.coordinate e
  /-- A deployed config enters an entity, and it takes its name if names are unique. -/
  deployed : o.state = .deployed →
    (∃ e, o.entity = some e ∧ e.skip = false
        ∧ d.books.registry = b.registry.insert c.coordinate e)
      ∧ (d.books.names = b.names
        ∨ ∃ id api name, c.target = .classic id ∧ conditions.catalog.find? id = some api
          ∧ api.requiresUniqueName = true
          ∧ c.name (c.values conditions.vars b.registry) = .ok name
          ∧ d.books.names = b.names.add api.id name)

/-- A deployed config takes a name in its API alone, and only if names are unique there. -/
theorem Passes.names_addDeployed
    {c : Config} {conditions : Conditions} {b : Books} {plan : Plan}
    (h : c.Passes conditions b.registry b.names plan) (remote : RemoteEntity) :
  (b.addDeployed c plan remote).names = b.names
    ∨ ∃ id api name, c.target = .classic id ∧ conditions.catalog.find? id = some api
      ∧ api.requiresUniqueName = true
      ∧ c.name (c.values conditions.vars b.registry) = .ok name
      ∧ (b.addDeployed c plan remote).names = b.names.add api.id name
  := by
  cases hroute : plan.route with
  | settings | byId | entity | automation =>
    left
    simp only [Books.addDeployed, hroute]
  | byName api =>
    right
    obtain ⟨id, htarget, hfind, hunique⟩ := classic_of_byName (hroute ▸ h.way)
    have hapi : plan.route.api? = some api := by
      rw [hroute]
      rfl
    obtain ⟨name, hname⟩ := h.exists_name hapi
    use id, api, name, htarget, hfind, hunique
    constructor
    · rw [← h.properties]
      apply h.name_eq hname
    · simp only [Books.addDeployed, hroute, hname]

/-- A failure that changes neither the books nor the recorder is contained. -/
theorem Contained.of_failed
    {c : Config} {conditions : Conditions} {b : Books} {s s' : Session σ} {o : Outcome}
    (hstate : o.state = .failed) (herrors : o.errors ≠ []) (hentity : o.entity = none)
    (hrecorder : s'.recorder = s.recorder) (hdisk : s'.disk = s.disk) :
  c.Contained conditions b s o ⟨.ok o, b, s'⟩
  := by
  constructor
  · simp [hstate]
  · simp [hstate, herrors]
  · simp [hstate, hentity]
  · intro _
    exact ⟨rfl, hrecorder, hdisk⟩
  · simp [hstate]
  · simp [hstate]

/-- A deployment that takes one of the courses to an outcome is contained. -/
theorem Course.contained
    {c : Config} {conditions : Conditions} {mode : Mode σ} {environment : String} {b : Books}
    {s : Session σ} {d : Deployed σ} {o : Outcome}
    (hcourse : c.Course conditions mode environment b s d) (h : d.result = .ok o) :
  c.Contained conditions b s o d
  := by
  cases hcourse with
  | fault => cases h
  | unwritten => cases h
  | skipped =>
    cases h
    constructor
    · exact State.noConfusion
    · simp [skippedOutcome, pending]
    · simp [skippedOutcome, pending]
    · intro h
      cases h
    · intro _
      exact ⟨rfl, rfl, rfl, c.skippedEntity, rfl, rfl, rfl, rfl⟩
    · intro h
      cases h
  | failed objection =>
    cases h
    apply Contained.of_failed
    · rfl
    · simp [failedOutcome, objection.errors_ne_nil]
    · rfl
    · rfl
    · rfl
  | refused =>
    cases h
    apply Contained.of_failed
    · rfl
    · simp [failedOutcome]
    · rfl
    · rfl
    · rfl
  | deployed passes carried kept =>
    rename_i plan remote state s'
    cases h
    constructor
    · exact State.noConfusion
    · simp [deployedOutcome, pending]
    · simp [deployedOutcome, pending]
    · intro h
      cases h
    · intro h
      cases h
    · intro _
      exact ⟨⟨c.deployedEntity plan remote, rfl, rfl, rfl⟩, passes.names_addDeployed remote⟩

/-- Whatever comes of a deployment is contained: a failure leaves the books and the
recorder as they were, and success changes the books at the coordinate and the name of the
config alone. -/
theorem contained_deploy
    {c : Config} {conditions : Conditions} {mode : Mode σ} {environment : String} {b : Books}
    {s : Session σ} {o : Outcome}
    (h : (c.deploy conditions mode environment b s).result = .ok o) :
  c.Contained conditions b s o (c.deploy conditions mode environment b s)
  := (c.course_deploy conditions mode environment b s).contained h

end Config

/-! ### A dashboard -/

namespace Sample

/-- An API that tells its configs apart by their names. -/
def dashboards : Api :=
  ⟨"dashboard", "/dashboards", "", false⟩

def conditions : Conditions :=
  ⟨.ofApis [dashboards], .empty, .automationResources, some 900, some 900⟩

/-- A dashboard with nothing on it. -/
def board : Config where
  coordinate := ⟨"shop", "dashboard", "board"⟩
  target := .classic "dashboard"
  template := ⟨"board.json", "[]"⟩
  parameters := .ofList [(nameParameter, .value (.text "Board"))]
  skip := .fixed false
  environment := "test"
  group := ""

/-- A session that has only begun, with the recording client. -/
def session : Session Recording :=
  ⟨.ofName "platform", none, ⟨.empty, []⟩, []⟩

end Sample

/-- The dashboard is deployed and takes its name. -/
theorem contained_deploy_board :
  ∃ o, (Sample.board.deploy Sample.conditions (.push Recording.client) "test" .empty
      Sample.session).result = .ok o
    ∧ o.state = .deployed
    ∧ Sample.board.Contained Sample.conditions .empty Sample.session o
      (Sample.board.deploy Sample.conditions (.push Recording.client) "test" .empty Sample.session)
  := by
  have hstate : (Sample.board.deploy Sample.conditions (.push Recording.client) "test" .empty
      Sample.session).result.toOption.map Outcome.state = some .deployed := by decide +kernel
  cases h : (Sample.board.deploy Sample.conditions (.push Recording.client) "test" .empty
      Sample.session).result with
  | error fault =>
    rw [h] at hstate
    cases hstate
  | ok o =>
    rw [h] at hstate
    exact ⟨o, rfl, Option.some.inj hstate, Config.contained_deploy h⟩

end Rollout
