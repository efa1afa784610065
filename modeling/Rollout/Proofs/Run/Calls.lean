import Rollout.Proofs.Run.Registry

/-!
# The calls of a run

The calls on a visit are what its client notes down when the deployment is done under watch.
A client that is watched works as it does otherwise, and so does any client of which only a
part of the state is looked at: deploying commutes with such a view.  On each visit there is
at most one call, and it is made for a config that passes every check.
-/

namespace Rollout

variable {σ τ : Type}

/-- A request that a client got, with its answer. -/
structure Call where
  request : Request
  /-- What the platform tells of the object, or the message of a refusal. -/
  answer : Except String RemoteEntity

/-! ### Views of the state of a client -/

/-- A client whose state is a view of the state of another one does on the view what the other
one does. -/
def Client.Views (view : σ → τ) (client : Client σ) (client' : Client τ) : Prop :=
  ∀ request state, client'.upsert request (view state)
    = ((client.upsert request state).1, view (client.upsert request state).2)

/-- Two modes are the same but for a view of the state of the client. -/
inductive Mode.Views (view : σ → τ) : Mode σ → Mode τ → Prop where
  | validate : Views view .validate .validate
  | push {client : Client σ} {client' : Client τ} (client_views : client.Views view client') :
      Views view (.push client) (.push client')

/-- The session with a view of the state of the client. -/
def Session.view (view : σ → τ) (s : Session σ) : Session τ :=
  ⟨view s.client, s.recorder, s.disk, s.log⟩

def Deployed.view (view : σ → τ) (d : Deployed σ) : Deployed τ :=
  ⟨d.result, d.books, d.session.view view⟩

section

variable {view : σ → τ} {mode : Mode σ} {mode' : Mode τ}

theorem Plan.carryOut_view
    (h : mode.Views view mode') (plan : Plan) (c : Config) (state : σ) :
  plan.carryOut mode' c (view state)
    = ((plan.carryOut mode c state).1, view (plan.carryOut mode c state).2)
  := by
  cases h with
  | validate => rfl
  | push client_views =>
    rw [carryOut.eq_def, carryOut.eq_def]
    dsimp only
    cases plan.request c.coordinate with
    | error obstacle => rfl
    | ok request => apply client_views

theorem Session.keepStub_view
    (h : mode.Views view mode') (s : Session σ) (c : Config) (plan : Plan)
    (remote : RemoteEntity) :
  (s.view view).keepStub mode' c plan remote
    = ((s.keepStub mode c plan remote).1.view view, (s.keepStub mode c plan remote).2)
  := by
  obtain ⟨client, recorder, disk, log⟩ := s
  cases h with
  | validate => rfl
  | push =>
    cases recorder with
    | none => rfl
    | some r =>
      simp only [Session.view, keepStub]
      split
      · cases ((r.record c.coordinate.type (c.stub plan remote)).writePayload disk
          c.coordinate.type remote.id plan.payload).result <;> rfl
      · rfl

/-- Deploying a config does on a view of the state of the client what it does otherwise. -/
theorem Config.deploy_view
    (h : mode.Views view mode') (c : Config) (conditions : Conditions) (environment : String)
    (b : Books) (s : Session σ) :
  c.deploy conditions mode' environment b (s.view view)
    = (c.deploy conditions mode environment b s).view view
  := by
  simp only [deploy]
  cases c.decide conditions b.registry b.names with
  | error fault => rfl
  | ok decision =>
    cases decision with
    | skip => rfl
    | fail variant errors => rfl
    | push plan =>
      have hcarry := plan.carryOut_view h c s.client
      simp only [Decision.carryOut, Session.tell, Session.view, hcarry]
      cases plan.carryOut mode c s.client with
      | mk answer state =>
        cases answer with
        | error cause => rfl
        | ok remote =>
          have hkeep := Session.keepStub_view h
            ⟨state, s.recorder, s.disk, s.log ++ c.notices conditions b.registry⟩ c plan remote
          simp only [Session.view] at hkeep
          dsimp only
          rw [hkeep]
          cases Session.keepStub ⟨state, s.recorder, s.disk,
            s.log ++ c.notices conditions b.registry⟩ mode c plan remote with
          | mk s' fault =>
            cases fault with
            | none => rfl
            | some fault => rfl

end

/-- Two runs deploy alike to an environment, but for a view of the state of its client. -/
structure Setup.Views (view : σ → τ) (environment : String) (setup : Setup σ)
    (setup' : Setup τ) : Prop where
  conditions : setup'.conditions = setup.conditions
  options : setup'.options = setup.options
  clients : Option.Rel (Client.Views view) (setup.clients environment)
    (setup'.clients environment)

theorem Setup.deploy_view
    {view : σ → τ} {environment : String} {setup : Setup σ} {setup' : Setup τ}
    (h : setup.Views view environment setup') (c : Config) (b : Books) (s : Session σ) :
  setup'.deploy environment c b (s.view view) = (setup.deploy environment c b s).view view
  := by
  rw [deploy, deploy, h.options, h.conditions]
  split
  · apply c.deploy_view .validate
  · have hclients := h.clients
    generalize setup.clients environment = client? at hclients ⊢
    generalize setup'.clients environment = client?' at hclients ⊢
    cases hclients with
    | none => rfl
    | some client_views => apply c.deploy_view (.push client_views)

/-! ### Clients under watch -/

/-- A client that works as before and keeps its calls, oldest first. -/
def Client.watched (client : Client σ) : Client (σ × List Call) where
  upsert request s :=
    let (answer, state) := client.upsert request s.1
    (answer, state, s.2 ++ [⟨request, answer⟩])

theorem Client.views_watched
    (client : Client σ) :
  client.watched.Views Prod.fst client
  := by
  intro request state
  rfl

def Setup.watched (setup : Setup σ) : Setup (σ × List Call) where
  conditions := setup.conditions
  options := setup.options
  clients environment := (setup.clients environment).map Client.watched
  cancelled := setup.cancelled

theorem Setup.views_watched
    (setup : Setup σ) (environment : String) :
  setup.watched.Views Prod.fst environment setup
  := by
  constructor
  · rfl
  · rfl
  · simp only [watched]
    cases setup.clients environment with
    | none => exact .none
    | some client => exact .some client.views_watched

/-- The session in front of a deployment under watch. -/
def Session.watched (s : Session σ) : Session (σ × List Call) :=
  s.view (fun client => (client, []))

/-- What the deployment of a visit leads to when it is done under watch. -/
def Visit.watched (setup : Setup σ) (v : Visit σ) : Deployed (σ × List Call) :=
  setup.watched.deploy v.environment v.config v.books v.session.watched

/-- The calls on a visit. -/
def Visit.calls (setup : Setup σ) (v : Visit σ) : List Call :=
  (v.watched setup).session.client.2

/-- The calls on the visits in an environment, oldest first. -/
def Visit.callsIn (setup : Setup σ) (environment : String) (visits : List (Visit σ)) :
    List Call :=
  (visits.filter (fun v => v.environment = environment)).flatMap (Visit.calls setup)

/-- A visit leads to the same whether it is watched or not. -/
theorem Visit.view_watched
    {setup : Setup σ} {v : Visit σ}
    (hv : v.deployed = setup.deploy v.environment v.config v.books v.session) :
  v.deployed = (v.watched setup).view Prod.fst
  := by
  rw [hv, watched, ← Setup.deploy_view (setup.views_watched v.environment)]
  rfl

/-! ### What is called -/

/-- The calls on a visit with what they lead to: there is none, or there is one for a config
that passes every check, and it makes the config fail or enters it into the books. -/
inductive Visit.Calling (setup : Setup σ) (v : Visit σ) : List Call → Prop where
  /-- No client is called. -/
  | silent : Calling setup v []
  /-- The request is refused. -/
  | refused {plan : Plan} {request : Request} {cause : String}
      (passes : v.config.Passes setup.conditions v.books.registry v.books.names plan)
      (request_eq : plan.request v.config.coordinate = .ok request)
      (result : v.deployed.result = .ok (v.config.failedOutcome v.environment
        (some plan.route.variant) [Config.remoteError plan.route cause])) :
      Calling setup v [⟨request, .error cause⟩]
  /-- The request is answered. -/
  | answered {plan : Plan} {request : Request} {remote : RemoteEntity}
      (passes : v.config.Passes setup.conditions v.books.registry v.books.names plan)
      (request_eq : plan.request v.config.coordinate = .ok request)
      (books : v.deployed.books = v.books.addDeployed v.config plan remote) :
      Calling setup v [⟨request, .ok remote⟩]

/-- A plan that is carried out under watch is called for once, unless no request can be
made. -/
theorem Plan.carryOut_watched
    {plan : Plan} {client : Client σ} {c : Config} {state state' : σ} {calls : List Call}
    {answer : Except String RemoteEntity}
    (h : plan.carryOut (.push client.watched) c (state, []) = (answer, state', calls)) :
  (calls = [] ∧ ∃ cause, answer = .error cause)
    ∨ ∃ request, plan.request c.coordinate = .ok request ∧ calls = [⟨request, answer⟩]
  := by
  rw [carryOut.eq_def] at h
  dsimp only at h
  split at h
  · cases h
    exact .inl ⟨rfl, _, rfl⟩
  · rename_i request hrequest
    cases h
    exact .inr ⟨request, hrequest, rfl⟩

/-- A watched client that answers has noted down one call. -/
theorem Visit.calling_of_answer
    {setup : Setup σ} {v : Visit σ} {client : Client σ} {plan : Plan} {remote : RemoteEntity}
    {state : σ × List Call}
    (passes : v.config.Passes setup.conditions v.books.registry v.books.names plan)
    (carried : plan.carryOut (.push client.watched) v.config v.session.watched.client
      = (.ok remote, state))
    (hbooks : v.deployed.books = v.books.addDeployed v.config plan remote) :
  v.Calling setup state.2
  := by
  rcases Plan.carryOut_watched carried with ⟨-, cause, hcause⟩ | ⟨request, hrequest, hcalls⟩
  · cases hcause
  · rw [hcalls]
    apply Calling.answered passes hrequest hbooks

/-- What is called for on a course is what the watched client notes down. -/
theorem Visit.calling_of_course
    {setup : Setup σ} {v : Visit σ} {client : Client σ} {d : Deployed (σ × List Call)}
    (hcourse : v.config.Course setup.conditions (.push client.watched) v.environment v.books
      v.session.watched d)
    (hview : v.deployed = d.view Prod.fst) :
  v.Calling setup d.session.client.2
  := by
  cases hcourse with
  | fault => exact .silent
  | skipped => exact .silent
  | failed => exact .silent
  | refused passes carried =>
    rename_i plan cause state
    rcases Plan.carryOut_watched carried with ⟨hnil, -⟩ | ⟨request, hrequest, hcalls⟩
    · dsimp only
      rw [hnil]
      exact .silent
    · dsimp only
      rw [hcalls]
      apply Calling.refused passes hrequest
      rw [hview]
      rfl
  | deployed passes carried kept =>
    rw [Session.client_of_keepStub kept]
    apply calling_of_answer passes carried
    rw [hview]
    rfl
  | unwritten passes carried kept =>
    rw [Session.client_of_keepStub kept]
    apply calling_of_answer passes carried
    rw [hview]
    rfl

/-- Every visit makes the calls that it tells of. -/
theorem Visit.calling
    {setup : Setup σ} {v : Visit σ}
    (hv : v.deployed = setup.deploy v.environment v.config v.books v.session) :
  v.Calling setup (v.calls setup)
  := by
  have hview := view_watched hv
  rw [calls]
  generalize hd : v.watched setup = d at hview ⊢
  rw [watched, Setup.deploy] at hd
  split at hd
  · have hclient := (v.config.course_deploy setup.conditions .validate v.environment v.books
      v.session.watched).client_validate
    subst hd
    dsimp only [Setup.watched]
    rw [hclient]
    exact .silent
  · split at hd
    · subst hd
      exact .silent
    · rename_i hclient
      obtain ⟨client, -, rfl⟩ := Option.map_eq_some_iff.mp hclient
      have hcourse := v.config.course_deploy setup.conditions (.push client.watched)
        v.environment v.books v.session.watched
      subst hd
      apply calling_of_course hcourse hview

/-! ### The calls of a run -/

/-- The session with calls that have been noted down. -/
def Session.noting (calls : List Call) (s : Session σ) : Session (σ × List Call) :=
  s.view (fun client => (client, calls))

def Progress.noting (calls : List Call) (p : Progress σ) : Progress (σ × List Call) :=
  ⟨p.report, p.session.noting calls, p.current, p.processed⟩

/-- A watched client does not look at the calls that it has noted down. -/
theorem Client.views_noting
    (client : Client σ) (calls : List Call) :
  client.watched.Views (fun s => (s.1, calls ++ s.2)) client.watched
  := by
  intro request s
  simp only [watched, List.append_assoc]

theorem Setup.views_noting
    (setup : Setup σ) (environment : String) (calls : List Call) :
  setup.watched.Views (fun s => (s.1, calls ++ s.2)) environment setup.watched
  := by
  constructor
  · rfl
  · rfl
  · simp only [watched]
    cases setup.clients environment with
    | none => exact .none
    | some client => exact .some (client.views_noting calls)

/-- A deployment under watch adds the calls on the visit to those that have been noted down. -/
theorem Visit.deploy_noting
    {setup : Setup σ} {v : Visit σ}
    (hv : v.deployed = setup.deploy v.environment v.config v.books v.session)
    (calls : List Call) :
  setup.watched.deploy v.environment v.config v.books (v.session.noting calls)
    = v.deployed.view (fun client => (client, calls ++ v.calls setup))
  := by
  have hnoting := Setup.deploy_view (setup.views_noting v.environment calls) v.config v.books
    v.session.watched
  have hsession : v.session.watched.view (fun s => (s.1, calls ++ s.2))
      = v.session.noting calls := by
    simp only [Session.watched, Session.view, Session.noting, List.append_nil]
  rw [hsession] at hnoting
  rw [hnoting, view_watched hv]
  rfl

namespace Setup

/-- A run under watch goes where the run goes, and the calls on the visits are noted down one
after another. -/
theorem process_watched
    (setup : Setup σ) (items : List (String × Config)) (p : Progress σ) (calls : List Call) :
  setup.watched.process items (p.noting calls)
    = (setup.process items p).map
        (fun q => q.noting (calls ++ (setup.visits items p).flatMap (Visit.calls setup)))
  := by
  -- The calls vary: each visit adds its own to those that the rest of the run is begun with.
  induction items generalizing p calls with
  | nil => simp [process, visits, Except.map]
  | cons item rest ih =>
    obtain ⟨environment, c⟩ := item
    have hvisit : (setup.watched.visit (p.noting calls) environment c).deployed
        = (setup.visit p environment c).deployed.view
          (fun client => (client, calls ++ (setup.visit p environment c).calls setup)) :=
      Visit.deploy_noting (setup.deployed_visit p environment c) calls
    have hcancelled : setup.watched.cancelled (p.noting calls).processed
        = setup.cancelled p.processed := rfl
    have hoptions : setup.watched.options = setup.options := rfl
    rw [process_cons, process_cons, visits, hcancelled, hoptions]
    split
    · simp only [Except.map, List.flatMap_nil, List.append_nil]
      rfl
    · dsimp only
      rw [hvisit]
      dsimp only [Deployed.view, Visit.outcome?]
      cases hresult : (setup.visit p environment c).deployed.result with
      | error fault => rfl
      | ok o =>
        have hfollow : (p.enter setup.options environment).add environment c o
            (setup.visit p environment c).deployed.books
            (setup.visit p environment c).deployed.session
            = p.follow setup.options (setup.visit p environment c) :=
          (Progress.follow_of_outcome _ _ (Visit.outcome?_eq_some_iff.mpr hresult)).symm
        dsimp only [Except.toOption]
        split
        · simp only [Except.map, List.flatMap_singleton]
          rfl
        · rw [hfollow, List.flatMap_cons, ← List.append_assoc, ← ih, ← hfollow]
          rfl

theorem writeStubs_watched
    (setup : Setup σ) (s : Session σ) (calls : List Call) :
  setup.watched.writeStubs (s.noting calls) = (setup.writeStubs s).map (Session.noting calls)
  := by
  obtain ⟨client, recorder, disk, log⟩ := s
  cases recorder with
  | none => rfl
  | some r =>
    cases hdry : setup.options.dryRun with
    | true => simp [writeStubs, watched, Session.noting, Session.view, Except.map, hdry]
    | false =>
      simp only [writeStubs, watched, Session.noting, Session.view, hdry]
      cases (r.writeAll disk).result with
      | error fault => rfl
      | ok paths => rfl

/-- The end of a run leaves the calls that have been noted down as they are. -/
theorem finish_watched
    (setup : Setup σ) (p : Progress σ) (calls : List Call) :
  setup.watched.finish (p.noting calls)
    = (setup.finish p).map (fun result => (result.1, result.2.noting calls))
  := by
  have htell : ∀ lines, (p.noting calls).session.tell lines
      = (p.session.tell lines).noting calls := fun _ => rfl
  simp only [finish, htell, writeStubs_watched]
  have hreport : (p.noting calls).report = p.report := rfl
  have hoptions : setup.watched.options = setup.options := rfl
  rw [hreport, hoptions]
  cases setup.writeStubs (p.session.tell (p.report.environments.values.map
      setup.options.finishedLine)) with
  | error fault => rfl
  | ok s => rfl

end Setup

/-- A run under watch leads to what the run leads to, and to a list of the calls on its visits
one after another. -/
theorem Job.run_watched
    (job : Job) (setup : Setup σ) (s : Session σ) :
  job.run setup.watched s.watched
    = (job.run setup s).map (fun result =>
        (result.1, result.2.noting ((job.visits setup s).flatMap (Visit.calls setup))))
  := by
  have hprocess : setup.watched.process job.items (job.start setup.watched s.watched)
      = (setup.process job.items (job.start setup s)).map
        (fun q => q.noting ((job.visits setup s).flatMap (Visit.calls setup))) :=
    setup.process_watched job.items (job.start setup s) []
  rw [run_eq, run_eq, Setup.runItems, Setup.runItems]
  have hstart : Progress.start (job.start setup.watched s.watched).report
      (job.start setup.watched s.watched).session = job.start setup.watched s.watched := rfl
  have hstart' : Progress.start (job.start setup s).report (job.start setup s).session
      = job.start setup s := rfl
  rw [hstart, hstart', hprocess]
  cases setup.process job.items (job.start setup s) with
  | error fault => rfl
  | ok q => apply setup.finish_watched

end Rollout
