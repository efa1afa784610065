import Mathlib.Data.List.Forall2
import Rollout.Client.Recording
import Rollout.Proofs.Deploy.Requests
import Rollout.Proofs.Run.Isolation
import Rollout.Proofs.Run.Names

/-!
# The records of recording clients

A recording client keeps every request that it gets.  In the course of a run its record
grows by one request for each config that is pushed in the environments that it serves, in
the order in which the configs come up, and by no other request.
-/

namespace Rollout

variable {σ κ : Type}

/-! ### Recording clients -/

/-- All clients of a run are recording clients, and each has a part of the state of its own.
An environment is served by the client that `serves` gives, or by none. -/
structure Clients.AreRecording (clients : Clients σ) (serves : String → Option κ)
    (part : κ → σ → Option Recording) : Prop where
  unserved : ∀ environment, serves environment = none → clients environment = none
  own : ∀ environment k, serves environment = some k →
    ∃ client, clients environment = some client
      ∧ client.Views (part k) Recording.client.partially
  others : ∀ environment k client, serves environment = some k →
    clients environment = some client →
      ∀ other, other ≠ k → ∀ request state,
        part other (client.upsert request state).2 = part other state

/-- One recording client for all environments is a recording client. -/
theorem Clients.areRecording_single :
  (single Recording.client).AreRecording (fun _ => some ()) (fun _ r => some r)
  := by
  constructor
  · intro environment h
    cases h
  · intro environment k h
    exact ⟨_, rfl, fun request state => rfl⟩
  · intro environment k client h hclient other hother
    exact absurd rfl hother

/-- Clients that go by names, each of which may serve several environments. -/
def Clients.shared (client : Client σ) (serves : String → Option String) :
    Clients (Table String σ) :=
  fun environment => (serves environment).map (within client)

/-- Recording clients that go by names are recording clients. -/
theorem Clients.areRecording_shared
    (serves : String → Option String) :
  (shared Recording.client serves).AreRecording serves (fun name states => states.find? name)
  := by
  constructor
  · intro environment h
    rw [shared, h, Option.map_none]
  · intro environment name h
    use within Recording.client name
    rw [shared, h, Option.map_some]
    use rfl
    apply within_views
  · intro environment name client h hclient other hother request states
    rw [shared, h, Option.map_some, Option.some_inj] at hclient
    rw [← hclient]
    apply find?_within Recording.client hother

/-- A client for each of a list of environments goes by the name of its environment. -/
theorem Clients.separate_eq_shared
    (client : Client σ) (served : List String) :
  separate client served
    = shared client (fun environment => if environment ∈ served then some environment else none)
  := by
  funext environment
  rw [separate, shared]
  split
  · rfl
  · rfl

/-- Separate recording clients are recording clients. -/
theorem Clients.areRecording_separate
    (served : List String) :
  (separate Recording.client served).AreRecording
    (fun environment => if environment ∈ served then some environment else none)
    (fun name states => states.find? name)
  := by
  rw [separate_eq_shared]
  apply areRecording_shared

/-- A request is recorded, whether it is answered or refused. -/
theorem Recording.requests_upsert
    (r : Recording) (request : Request) :
  (client.upsert request r).2.requests = r.requests ++ [request]
  := by
  simp only [client]
  split
  · rfl
  · rfl

/-! ### One visit -/

/-- A request asks for the config of a visit: it is the one that the kind of request in the
outcome leads to. -/
def Visit.Asks (setup : Setup σ) (v : Visit σ) (request : Request) : Prop :=
  ∃ o variant, v.outcome? = some o ∧ o.variant = some variant
    ∧ v.config.Asks setup.conditions v.books.registry variant request

/-- The config of a visit is pushed. -/
def Visit.isPushed (v : Visit σ) : Bool :=
  v.outcome?.any Outcome.isPushed

/-- The visits at which a config is pushed with a client. -/
def Visit.pushedTo [DecidableEq κ] (serves : String → Option κ) (k : κ)
    (visits : List (Visit σ)) : List (Visit σ) :=
  visits.filter (fun v => serves v.environment = some k && v.isPushed)

/-- The record of a client has grown by one request for each of some visits, in order. -/
def Recording.Records (setup : Setup σ) (visits : List (Visit σ)) (r r' : Recording) : Prop :=
  ∃ requests, r'.requests = r.requests ++ requests
    ∧ List.Forall₂ (Visit.Asks setup) visits requests

theorem Recording.Records.refl
    (setup : Setup σ) (r : Recording) :
  r.Records setup [] r
  := ⟨[], (List.append_nil _).symm, .nil⟩

theorem Recording.Records.trans
    {setup : Setup σ} {visits visits' : List (Visit σ)} {r r' r'' : Recording}
    (h : r.Records setup visits r') (h' : r'.Records setup visits' r'') :
  r.Records setup (visits ++ visits') r''
  := by
  obtain ⟨requests, hrequests, hasks⟩ := h
  obtain ⟨requests', hrequests', hasks'⟩ := h'
  use requests ++ requests'
  constructor
  · rw [hrequests', hrequests, List.append_assoc]
  · exact List.rel_append hasks hasks'

section

variable {setup : Setup σ} {serves : String → Option κ} {part : κ → σ → Option Recording}
  {v : Visit σ} {o : Outcome}

/-- What becomes of a config on a visit of a run that pushes: there is no client for it, or it
takes its course with one. -/
theorem Visit.course
    (hreal : setup.options.dryRun = false)
    (hv : v.deployed = setup.deploy v.environment v.config v.books v.session) :
  (setup.clients v.environment = none
      ∧ v.deployed = ⟨.ok (v.config.unserved v.environment), v.books, v.session⟩)
    ∨ ∃ client, setup.clients v.environment = some client
      ∧ v.config.Course setup.conditions (.push client) v.environment v.books v.session v.deployed
  := by
  rw [hv, Setup.deploy, hreal]
  cases hclient : setup.clients v.environment with
  | none => exact .inl ⟨rfl, rfl⟩
  | some client => exact .inr ⟨client, rfl, v.config.course_deploy _ _ _ _ _⟩

/-- A config is pushed only with a client. -/
theorem Visit.served_of_isPushed
    (hclients : setup.clients.AreRecording serves part) (hreal : setup.options.dryRun = false)
    (hv : v.deployed = setup.deploy v.environment v.config v.books v.session)
    (hpushed : v.isPushed = true) :
  ∃ k, serves v.environment = some k
  := by
  cases hserves : serves v.environment with
  | some k => exact ⟨k, rfl⟩
  | none =>
    rcases course hreal hv with ⟨-, hunserved⟩ | ⟨client, hclient, -⟩
    · rw [isPushed, outcome?, hunserved] at hpushed
      cases hpushed
    · rw [hclients.unserved _ hserves] at hclient
      cases hclient

/-- A client leaves the records of the others as they are. -/
theorem Clients.AreRecording.kept
    {environment : String} {k : κ} (hclients : setup.clients.AreRecording serves part)
    (h : serves environment ≠ some k) :
  ∀ client, setup.clients environment = some client →
    ∀ request state, part k (client.upsert request state).2 = part k state
  := by
  intro client hclient
  cases hserves : serves environment with
  | none =>
    rw [hclients.unserved environment hserves] at hclient
    cases hclient
  | some other =>
    apply hclients.others environment other client hserves hclient
    rintro rfl
    exact h hserves

/-- A client that makes a request adds it to its record. -/
theorem Clients.AreRecording.part_upsert
    {environment : String} {k : κ} {client : Client σ} {request : Request} {state : σ}
    {r : Recording} (hclients : setup.clients.AreRecording serves part)
    (hserves : serves environment = some k) (hclient : setup.clients environment = some client)
    (hr : part k state = some r) :
  part k (client.upsert request state).2 = some (Recording.client.upsert request r).2
  := by
  obtain ⟨client', hclient', hviews⟩ := hclients.own environment k hserves
  rw [hclient, Option.some_inj] at hclient'
  subst hclient'
  have hupsert := congrArg Prod.snd (hviews request state)
  rw [hr] at hupsert
  exact hupsert.symm

/-- On a visit the record of a client grows by one request if the config is pushed with it,
and otherwise it stays as it is. -/
theorem Visit.records [DecidableEq κ]
    (hclients : setup.clients.AreRecording serves part) (hreal : setup.options.dryRun = false)
    (hv : v.deployed = setup.deploy v.environment v.config v.books v.session)
    (hscope : v.config.HasWritableScope setup.conditions.vars v.books.registry)
    (ho : v.outcome? = some o) {k : κ} {r : Recording}
    (hr : part k v.session.client = some r) :
  ∃ r', part k v.deployed.session.client = some r' ∧ r.Records setup (pushedTo serves k [v]) r'
  := by
  have hkept : part k v.deployed.session.client = part k v.session.client →
      pushedTo serves k [v] = [] →
        ∃ r', part k v.deployed.session.client = some r'
          ∧ r.Records setup (pushedTo serves k [v]) r' := by
    intro hpart hnil
    rw [hpart, hnil]
    exact ⟨r, hr, .refl setup r⟩
  have hpushed : v.isPushed = o.isPushed := by
    rw [isPushed, ho, Option.any_some]
  by_cases hserves : serves v.environment = some k
  · rcases course hreal hv with ⟨hnone, -⟩ | ⟨client, hclient, hcourse⟩
    · obtain ⟨client, hclient, -⟩ := hclients.own v.environment k hserves
      rw [hnone] at hclient
      cases hclient
    · rcases hcourse.pushed (outcome?_eq_some_iff.mp ho) hscope
        with ⟨hnot, hsame⟩ | ⟨his, variant, request, hvariant, hasks, hupsert⟩
      · apply hkept
        · rw [hsame]
        · simp [pushedTo, hpushed, hnot]
      · have hone : pushedTo serves k [v] = [v] := by
          simp [pushedTo, hserves, hpushed, his]
        rw [hupsert, hclients.part_upsert hserves hclient hr, hone]
        use (Recording.client.upsert request r).2, rfl, [request], r.requests_upsert request
        apply List.Forall₂.cons _ .nil
        exact ⟨o, variant, ho, hvariant, hasks⟩
  · apply hkept
    · rw [hv]
      apply Setup.client_deploy (hclients.kept hserves)
    · simp [pushedTo, hserves]

end

/-! ### Whole runs -/

theorem Visit.clientAfter_concat
    (client : σ) (history : List (Visit σ)) (v : Visit σ) :
  clientAfter client (history ++ [v]) = v.deployed.session.client
  := by
  rw [clientAfter, List.getLast?_concat, Option.map_some, Option.getD_some]

namespace Job

variable {job : Job} {setup : Setup σ} {s s' : Session σ} {report : Report}
  {serves : String → Option κ} {part : κ → σ → Option Recording}

/-- After some visits the record of a client has grown by one request for each config that
was pushed with it. -/
theorem records_clientAfter [DecidableEq κ]
    (hclients : setup.clients.AreRecording serves part) (hreal : setup.options.dryRun = false)
    (hscope : ∀ v ∈ job.visits setup s,
      v.config.HasWritableScope setup.conditions.vars v.books.registry)
    (houtcomes : ∀ v ∈ job.visits setup s, ∃ o, v.outcome? = some o)
    {history rest : List (Visit σ)} (h : job.visits setup s = history ++ rest) {k : κ}
    {r : Recording} (hr : part k s.client = some r) :
  ∃ r', part k (Visit.clientAfter s.client history) = some r'
    ∧ r.Records setup (Visit.pushedTo serves k history) r'
  := by
  -- The history grows at its end, where each visit meets the client as the others left it.
  induction history using List.reverseRecOn generalizing rest with
  | nil => exact ⟨r, hr, .refl setup r⟩
  | append_singleton history v ih =>
    rw [List.append_assoc, List.singleton_append] at h
    obtain ⟨r', hr', hrecords⟩ := ih h
    rw [← client_visit h] at hr'
    have hv := mem_visits h
    obtain ⟨o, ho⟩ := houtcomes v hv
    obtain ⟨r'', hr'', hrecords'⟩ := Visit.records hclients hreal (deployed_visit hv)
      (hscope v hv) ho hr'
    use r''
    rw [Visit.clientAfter_concat]
    use hr''
    rw [Visit.pushedTo, List.filter_append]
    apply hrecords.trans hrecords'

/-- Everything that is pushed is asked for exactly once.  If a run with recording clients comes
to an end, then the record of each of the clients has grown by one request for each config
that was pushed in an environment that it serves, in the order in which they were processed:
the request that asks for this config.  The configs that were pushed are the ones that are
deployed and the ones that have failed with the error of a request, and none of them is
without a client. -/
theorem requests_exactly_once [DecidableEq κ]
    (hclients : setup.clients.AreRecording serves part) (hreal : setup.options.dryRun = false)
    (hscope : ∀ v ∈ job.visits setup s,
      v.config.HasWritableScope setup.conditions.vars v.books.registry)
    (h : job.run setup s = .ok (report, s')) :
  (∀ k r, part k s.client = some r → ∃ r', part k s'.client = some r'
      ∧ r.Records setup (Visit.pushedTo serves k (job.visits setup s)) r')
    ∧ (∀ v ∈ job.visits setup s, ∃ o, v.outcome? = some o ∧ v.isPushed = o.isPushed
      ∧ (o.isPushed = true → ∃ k, serves v.environment = some k)
      ∧ ((∀ cause, ¬ v.config.Raises (.remoteCall cause)) →
        (o.isPushed = true ↔ o.state = .deployed
          ∨ o.state = .failed ∧ ∃ e ∈ o.errors, ∃ cause, e.kind = .remoteCall cause)))
    ∧ ∀ environment, (report.environment environment).outcomes
      = Visit.outcomes environment (job.visits setup s)
  := by
  obtain ⟨houtcomes, -⟩ := run_eq_ok h
  constructor
  · intro k r hr
    rw [client_run h]
    apply records_clientAfter hclients hreal hscope houtcomes (List.append_nil _).symm hr
  · constructor
    · intro v hv
      obtain ⟨o, ho⟩ := houtcomes v hv
      have hpushed : v.isPushed = o.isPushed := by
        rw [Visit.isPushed, ho, Option.any_some]
      use o, ho, hpushed
      constructor
      · intro his
        apply Visit.served_of_isPushed hclients hreal (deployed_visit hv)
        rw [hpushed, his]
      · intro hraises
        rcases Visit.course hreal (deployed_visit hv) with ⟨-, hunserved⟩ | ⟨client, -, hcourse⟩
        · rw [Visit.outcome?, hunserved] at ho
          cases ho
          constructor
          · intro his
            cases his
          · rintro (hstate | ⟨-, e, he, cause, hkind⟩)
            · cases hstate
            · obtain rfl := List.mem_singleton.mp he
              cases hkind
        · apply hcourse.isPushed_iff (Visit.outcome?_eq_some_iff.mp ho) hraises
    · intro environment
      apply (environment_run h environment).1

end Job

namespace Sample

/-- Four dashboards of two environments. -/
def interleaved : Job :=
  .inOrder [board, replica, namesake, overview]

/-- A run over two environments that share a client. -/
def shared : Setup (Table String Recording) :=
  ⟨conditions, {}, .shared Recording.client (fun _ => some "platform"), fun _ => false⟩

/-- A session in which the client is to refuse the dashboard that shows another one. -/
def sharedSession : Session (Table String Recording) :=
  ⟨.ofList [("platform", (Recording.ofName "platform").refuse "Overview" "refused")], none,
    ⟨.empty, []⟩, []⟩

end Sample

/-- Of four dashboards the client is asked for three: two are deployed, one to each of the
environments, one is refused, and the one with a name that is taken is not asked for. -/
theorem requests_exactly_once_replica :
  ∃ report s' r', Sample.interleaved.run Sample.shared Sample.sharedSession = .ok (report, s')
    ∧ s'.client.find? "platform" = some r' ∧ r'.requests.length = 3
    ∧ ((Recording.ofName "platform").refuse "Overview" "refused").Records Sample.shared
      (Visit.pushedTo (fun _ => some "platform") "platform"
        (Sample.interleaved.visits Sample.shared Sample.sharedSession)) r'
  := by
  have hok : (Sample.interleaved.run Sample.shared Sample.sharedSession).toOption.map
      (fun _ => ()) = some () := by decide +kernel
  have hpushed : (Sample.interleaved.visits Sample.shared Sample.sharedSession).map
      (fun v => (v.config.target.isSettings, v.isPushed))
      = [(false, true), (false, true), (false, false), (false, true)] := by decide +kernel
  have hlength : (Visit.pushedTo (fun _ => some "platform") "platform"
      (Sample.interleaved.visits Sample.shared Sample.sharedSession)).length = 3 := by
    decide +kernel
  have hscope : ∀ v ∈ Sample.interleaved.visits Sample.shared Sample.sharedSession,
      v.config.HasWritableScope Sample.shared.conditions.vars v.books.registry := by
    intro v hv hsettings
    have hmem : (v.config.target.isSettings, v.isPushed)
        ∈ [(false, true), (false, true), (false, false), (false, true)] := by
      rw [← hpushed]
      apply List.mem_map_of_mem hv
    simp [hsettings] at hmem
  obtain ⟨⟨report, s'⟩, h, -⟩ := exists_eq_ok hok
  obtain ⟨hrecords, -, -⟩ := Job.requests_exactly_once
    (Clients.areRecording_shared (fun _ => some "platform")) rfl hscope h
  obtain ⟨r', hr', hgrown⟩ := hrecords "platform" _ rfl
  use report, s', r', h, hr'
  refine ⟨?_, hgrown⟩
  obtain ⟨requests, hrequests, hasks⟩ := hgrown
  rw [hrequests, List.length_append, ← hasks.length_eq, hlength]
  rfl

end Rollout
