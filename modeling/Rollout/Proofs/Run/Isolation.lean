import Rollout.Proofs.Deploy.Recorder
import Rollout.Proofs.Run.Calls
import Rollout.Proofs.Run.Completion
import Rollout.Proofs.Run.Sorting

/-!
# Environments apart from each other

What becomes of an environment in a run is what becomes of it when it is the only one.  Each
visit in the environment mirrors a visit of the run over its configs alone: the books and the
client are the same, and whatever the visits elsewhere do, they leave both as they are.
-/

namespace Rollout

variable {σ τ : Type}

/-! ### Separate clients -/

/-- The clients of the environments have parts of the state of their own: what a client does
depends on its part alone and leaves the parts of the others as they are. -/
structure Clients.AreSeparate (clients : Clients σ) (view : String → σ → τ) : Prop where
  own : ∀ environment client, clients environment = some client →
    ∃ client', client.Views (view environment) client'
  others : ∀ environment client, clients environment = some client →
    ∀ other, other ≠ environment → ∀ request state,
      view other (client.upsert request state).2 = view other state

/-- A client whose state may be missing: without it, everything is refused. -/
def Client.partially (client : Client σ) : Client (Option σ) where
  upsert request state? :=
    match state? with
    | none => (.error "", none)
    | some state => ((client.upsert request state).1, some (client.upsert request state).2)

/-- Within a table of states, a client is the client of the state at its own place. -/
theorem Clients.within_views
    (client : Client σ) (environment : String) :
  (within client environment).Views (fun states => states.find? environment) client.partially
  := by
  intro request states
  simp only [within, Client.partially]
  cases hstate : states.find? environment with
  | none => simp [hstate]
  | some state => simp [Table.find?_insert]

/-- Within a table of states, a client leaves the states at other places as they are. -/
theorem Clients.find?_within
    (client : Client σ) {environment other : String} (h : other ≠ environment)
    (request : Request) (states : Table String σ) :
  ((within client environment).upsert request states).2.find? other = states.find? other
  := by
  simp only [within]
  cases states.find? environment with
  | none => rfl
  | some state =>
    dsimp only
    rw [Table.find?_insert, if_neg (Ne.symm h)]

/-- Clients with a state for each environment are separate. -/
theorem Clients.areSeparate_separate
    (client : Client σ) (served : List String) :
  (separate client served).AreSeparate (fun environment states => states.find? environment)
  := by
  have hwithin : ∀ environment client', separate client served environment = some client' →
      client' = within client environment := by
    intro environment client' h
    rw [separate] at h
    split at h
    · cases h
      rfl
    · cases h
  constructor
  · intro environment client' h
    use client.partially
    rw [hwithin environment client' h]
    apply within_views
  · intro environment client' h other hother request states
    rw [hwithin environment client' h]
    apply find?_within client hother

theorem Client.Views.watched
    {view : σ → τ} {client : Client σ} {client' : Client τ} (h : client.Views view client') :
  client.watched.Views (Prod.map view id) client'.watched
  := by
  intro request s
  simp only [Client.watched, Prod.map, h request s.1]
  rfl

/-- What a run does in an environment depends on the part of its client alone. -/
theorem Clients.AreSeparate.exists_views
    {setup : Setup σ} {view : String → σ → τ} (h : setup.clients.AreSeparate view)
    (environment : String) :
  ∃ setup' : Setup (τ × List Call),
    setup.watched.Views (Prod.map (view environment) id) environment setup'
  := by
  cases hclient : setup.clients environment with
  | none =>
    use ⟨setup.conditions, setup.options, fun _ => none, setup.cancelled⟩
    constructor
    · rfl
    · rfl
    · simp only [Setup.watched, hclient]
      exact .none
  | some client =>
    obtain ⟨client', hviews⟩ := h.own environment client hclient
    use ⟨setup.conditions, setup.options, fun _ => some client'.watched, setup.cancelled⟩
    constructor
    · rfl
    · rfl
    · simp only [Setup.watched, hclient]
      exact .some hviews.watched

/-! ### One visit -/

namespace Setup

variable {setup : Setup σ} {environment : String}

/-- Deployments from sessions that mirror each other do so as well. -/
theorem deploy_mirrors
    (setup : Setup σ) (environment : String) (c : Config) (b : Books) {s t : Session σ}
    (h : s.Mirrors t) :
  (setup.deploy environment c b s).Mirrors (setup.deploy environment c b t)
  := by
  rw [deploy, deploy]
  split
  · apply Config.deploy_mirrors h
  · split
    · exact ⟨rfl, rfl, h⟩
    · apply Config.deploy_mirrors h

/-- What no request changes of the state of the client is as before the deployment. -/
theorem client_deploy
    {α : Type} {f : σ → α}
    (h : ∀ client, setup.clients environment = some client →
      ∀ request state, f (client.upsert request state).2 = f state)
    (c : Config) (b : Books) (s : Session σ) :
  f (setup.deploy environment c b s).session.client = f s.client
  := by
  rw [deploy]
  split
  · apply congrArg f
    apply (c.course_deploy setup.conditions .validate environment b s).client_validate
  · split
    · rfl
    · rename_i client hclient
      apply (c.course_deploy setup.conditions (.push client) environment b s).client_kept
      intro client' hclient'
      cases hclient'
      apply h client hclient

theorem recordsWithin_deploy
    (setup : Setup σ) (environment : String) (c : Config) (b : Books) (s : Session σ) :
  s.RecordsWithin (setup.deploy environment c b s).session
  := by
  rcases setup.course_visit environment c b s with ⟨mode, hcourse⟩ | hunserved
  · apply hcourse.recordsWithin
  · rw [hunserved]
    exact .of_eq rfl rfl

end Setup

/-- A visit leads to what another one leads to, with the same calls, as far as a part of the
client is concerned. -/
structure Visit.Mirrors (setup : Setup σ) (view : σ → τ) (v w : Visit σ) : Prop where
  result : v.deployed.result = w.deployed.result
  books : v.deployed.books = w.deployed.books
  client : view v.deployed.session.client = view w.deployed.session.client
  records : v.deployed.session.RecordsWithin w.deployed.session
  calls : v.calls setup = w.calls setup

/-- A view of the state of the client is of no account for the recorders. -/
theorem Session.mirrors_view_iff
    {view : σ → τ} {s t : Session σ} :
  (s.view view).Mirrors (t.view view)
    ↔ view s.client = view t.client ∧ s.RecordsWithin t
  := by
  constructor
  · intro h
    exact ⟨h.client, h.records.folder, h.records.offers, h.records.types⟩
  · rintro ⟨hclient, hrecords⟩
    exact ⟨hclient, hrecords.folder, hrecords.offers, hrecords.types⟩

/-- Visits of a config that meet the same books and the same part of the client mirror each
other if one records within the other. -/
theorem Visit.mirrors
    {setup : Setup σ} {view : String → σ → τ} (hseparate : setup.clients.AreSeparate view)
    {v w : Visit σ}
    (hv : v.deployed = setup.deploy v.environment v.config v.books v.session)
    (hw : w.deployed = setup.deploy w.environment w.config w.books w.session)
    (hitem : v.item = w.item) (hbooks : v.books = w.books)
    (hclient : view w.environment v.session.client = view w.environment w.session.client)
    (hrecords : v.session.RecordsWithin w.session) :
  v.Mirrors setup (view w.environment) w
  := by
  obtain ⟨henvironment, hconfig⟩ := Prod.mk.inj hitem
  obtain ⟨setup', hviews⟩ := hseparate.exists_views w.environment
  have hwatched : ((v.watched setup).view (Prod.map (view w.environment) id)).Mirrors
      ((w.watched setup).view (Prod.map (view w.environment) id)) := by
    rw [Visit.watched, Visit.watched, henvironment, hconfig, hbooks,
      ← Setup.deploy_view hviews, ← Setup.deploy_view hviews]
    apply setup'.deploy_mirrors
    apply Session.mirrors_view_iff.mpr
    exact ⟨Prod.ext hclient rfl, hrecords.folder, hrecords.offers, hrecords.types⟩
  obtain ⟨hstates, hkept⟩ := Session.mirrors_view_iff.mp hwatched.session
  obtain ⟨hstate, hcalls⟩ := Prod.mk.inj hstates
  constructor
  · rw [view_watched hv, view_watched hw]
    apply hwatched.result
  · rw [view_watched hv, view_watched hw]
    apply hwatched.books
  · rw [view_watched hv, view_watched hw]
    apply hstate
  · rw [view_watched hv, view_watched hw]
    exact ⟨hkept.folder, hkept.offers, hkept.types⟩
  · apply hcalls

/-! ### The progress of two runs -/

/-- A run has come as far in an environment as another one, with the same part of the
client. -/
structure Progress.Mirrors (view : σ → τ) (environment : String) (p q : Progress σ) : Prop where
  report : p.report.environments.find? environment = q.report.environments.find? environment
  client : view p.session.client = view q.session.client
  records : p.session.RecordsWithin q.session

namespace Progress.Mirrors

variable {view : String → σ → τ} {environment : String} {p q : Progress σ}
  {setup : Setup σ} {c : Config} {o : Outcome}

/-- A visit in another environment changes nothing in this one. -/
theorem follow_elsewhere
    (hseparate : setup.clients.AreSeparate view)
    (h : p.Mirrors (view environment) environment q) {other : String}
    (hother : other ≠ environment) (ho : (setup.visit q other c).outcome? = some o) :
  p.Mirrors (view environment) environment (q.follow setup.options (setup.visit q other c))
  := by
  have henvironment : (setup.visit q other c).environment ≠ environment := hother
  constructor
  · rw [find?_follow _ _ ho, if_neg henvironment, h.report]
  · have hkept : view environment (setup.visit q other c).deployed.session.client
        = view environment q.session.client := by
      apply Setup.client_deploy
      intro client hclient
      apply hseparate.others other client hclient environment hother.symm
    rw [follow_of_outcome _ _ ho, h.client, ← hkept]
    rfl
  · have hvisit : (setup.visit q other c).session.RecordsWithin
        (setup.visit q other c).deployed.session := setup.recordsWithin_deploy _ _ _ _
    have hentered : q.session.RecordsWithin (setup.visit q other c).session := .of_eq rfl rfl
    rw [follow_of_outcome _ _ ho]
    apply (h.records.trans (hentered.trans hvisit)).trans
    exact .of_eq rfl rfl

/-- The next visits of two runs that have come equally far mirror each other. -/
theorem visit
    (hseparate : setup.clients.AreSeparate view) (h : p.Mirrors (view environment) environment q)
    (c : Config) :
  (setup.visit p environment c).Mirrors setup (view environment) (setup.visit q environment c)
  := by
  have hitem : (setup.visit p environment c).item = (setup.visit q environment c).item := rfl
  apply Visit.mirrors hseparate (setup.deployed_visit p environment c)
    (setup.deployed_visit q environment c) hitem
  · rw [Setup.books_visit, Setup.books_visit, Report.environment, Report.environment, h.report]
  · apply h.client
  · exact ⟨h.records.folder, h.records.offers, h.records.types⟩

/-- After visits that mirror each other two runs have come equally far. -/
theorem follow
    (h : p.Mirrors (view environment) environment q)
    (hvisit : (setup.visit p environment c).Mirrors setup (view environment)
      (setup.visit q environment c))
    (ho : (setup.visit q environment c).outcome? = some o) :
  (p.follow setup.options (setup.visit p environment c)).Mirrors (view environment) environment
    (q.follow setup.options (setup.visit q environment c))
  := by
  have ho' : (setup.visit p environment c).outcome? = some o := by
    rw [Visit.outcome?, hvisit.result]
    apply ho
  constructor
  · rw [find?_follow _ _ ho, find?_follow _ _ ho', hvisit.books, Report.environment,
      Report.environment, h.report]
    rfl
  · rw [follow_of_outcome _ _ ho, follow_of_outcome _ _ ho']
    apply hvisit.client
  · rw [follow_of_outcome _ _ ho, follow_of_outcome _ _ ho']
    exact ⟨hvisit.records.folder, hvisit.records.offers, hvisit.records.types⟩

end Progress.Mirrors

/-! ### Whole runs -/

namespace Setup

variable {setup : Setup σ} {view : String → σ → τ} {environment : String} {p q q' : Progress σ}

/-- A run over the configs of an environment alone mirrors a run over configs of several
environments, with the same calls. -/
theorem process_mirrors
    (hseparate : setup.clients.AreSeparate view) (hcontinue : setup.options.continueOnError = true)
    (hcancel : ∀ n, setup.cancelled n = false) {items : List (String × Config)}
    (h : p.Mirrors (view environment) environment q) (hq : setup.process items q = .ok q') :
  ∃ p', setup.process (items.filter (fun item => item.1 = environment)) p = .ok p'
    ∧ p'.Mirrors (view environment) environment q'
    ∧ Visit.callsIn setup environment
        (setup.visits (items.filter (fun item => item.1 = environment)) p)
      = Visit.callsIn setup environment (setup.visits items q)
  := by
  -- Both starts vary: each visit moves one or both of the runs on.
  induction items generalizing p q with
  | nil =>
    cases hq
    exact ⟨p, rfl, h, rfl⟩
  | cons item rest ih =>
    obtain ⟨other, c⟩ := item
    have hgoes : ∀ v : Visit σ, ¬ setup.Stops v := by
      rintro v ⟨-, hstops⟩
      rw [hcontinue] at hstops
      cases hstops
    obtain ⟨o, ho⟩ := process_isOk_iff.mp ⟨q', hq⟩ (setup.visit q other c)
      (visit_mem_visits (hcancel _))
    obtain ⟨hvisits, hprocess⟩ := setup.step_of_goes_on rest (hcancel _) ho (hgoes _)
    rw [hprocess] at hq
    by_cases hother : other = environment
    · subst hother
      have hvisit := h.visit hseparate c
      have ho' : (setup.visit p other c).outcome? = some o := by
        rw [Visit.outcome?, hvisit.result]
        apply ho
      obtain ⟨hvisits', hprocess'⟩ := setup.step_of_goes_on
        (rest.filter (fun item => item.1 = other)) (hcancel p.processed) ho' (hgoes _)
      obtain ⟨p', hp', hmirrors, hcalls⟩ := ih (h.follow hvisit ho) hq
      rw [List.filter_cons_of_pos (by simp), hprocess', hvisits', hvisits]
      use p', hp', hmirrors
      simp only [Visit.callsIn] at hcalls ⊢
      rw [List.filter_cons_of_pos (by simp [visit]), List.filter_cons_of_pos (by simp [visit]),
        List.flatMap_cons, List.flatMap_cons, hvisit.calls, hcalls]
    · obtain ⟨p', hp', hmirrors, hcalls⟩ := ih (h.follow_elsewhere hseparate hother ho) hq
      rw [List.filter_cons_of_neg (by simpa using hother), hvisits]
      use p', hp', hmirrors
      rw [hcalls, Visit.callsIn, Visit.callsIn,
        List.filter_cons_of_neg (by simp [visit, hother])]

/-- The stubs cannot be written out if no folder or no file can have one of the paths. -/
theorem writeStubs_eq_error_iff
    {s : Session σ} :
  (∃ fault, setup.writeStubs s = .error fault)
    ↔ setup.options.dryRun = false ∧ ∃ folder, s.folder? = some folder
      ∧ (folder.hasNul = true ∨ s.disk.Offers folder
        ∧ ∃ type ∈ s.types, (Recorder.typePath folder type).hasNul = true)
  := by
  rw [writeStubs, Session.folder?, Session.types]
  cases hrecorder : s.recorder with
  | none => simp
  | some r =>
    cases hdry : setup.options.dryRun with
    | true => simp
    | false =>
      cases hfolder : r.folder with
      | none => simp [Recorder.writeAll, hfolder]
      | some folder =>
        have hstops := @Recorder.writeAll_stops_iff r s.disk folder hfolder
        simp only [Option.map_some, Option.getD_some, Option.bind_some, hfolder,
          Option.some_inj, exists_eq_left', true_and]
        rw [← hstops, Recorder.Written.Stops]
        cases (r.writeAll s.disk).result with
        | ok paths => simp
        | error fault => simp

/-- The stubs can be written out if they can where more has been recorded. -/
theorem exists_writeStubs
    {s t t' : Session σ} (h : s.RecordsWithin t) (ht : setup.writeStubs t = .ok t') :
  ∃ s', setup.writeStubs s = .ok s'
  := by
  cases hs : setup.writeStubs s with
  | ok s' => exact ⟨s', rfl⟩
  | error fault =>
    obtain ⟨hdry, folder, hfolder, hpaths⟩ := writeStubs_eq_error_iff.mp ⟨fault, hs⟩
    rw [h.folder] at hfolder
    have hfault : ∃ fault, setup.writeStubs t = .error fault := by
      apply writeStubs_eq_error_iff.mpr
      use hdry, folder, hfolder
      rcases hpaths with hnul | ⟨hoffers, type, htype, hnul⟩
      · exact .inl hnul
      · exact .inr ⟨(h.offers folder hfolder).mp hoffers, type, h.types htype, hnul⟩
    rw [ht] at hfault
    obtain ⟨fault, hfault⟩ := hfault
    cases hfault

/-- A run that has come as far as another one comes to an end if that one does. -/
theorem finish_mirrors
    (h : p.Mirrors (view environment) environment q) {report : Report} {t : Session σ}
    (hq : setup.finish q = .ok (report, t)) :
  ∃ s, setup.finish p = .ok (p.report, s) ∧ view environment s.client = view environment t.client
  := by
  have hclient := (finish_eq_ok hq).2
  rw [finish] at hq
  split at hq
  · cases hq
  · rename_i t' ht
    have hrecords : (p.session.tell (p.report.environments.values.map
        setup.options.finishedLine)).RecordsWithin (q.session.tell
          (q.report.environments.values.map setup.options.finishedLine)) :=
      ⟨h.records.folder, h.records.offers, h.records.types⟩
    obtain ⟨s, hs⟩ := exists_writeStubs hrecords ht
    have hp : setup.finish p = .ok (p.report, s) := by
      simp only [finish, hs]
    use s, hp
    rw [(finish_eq_ok hp).2, hclient, h.client]

/-- Loops are entered into the report of an environment as if they were the only ones. -/
theorem find?_cycleReport
    {r r' : Report} (h : r.environments.find? environment = r'.environments.find? environment)
    (errors : List DeployError) :
  (cycleReport r (errors.filter (fun e => e.environment.getD "" = environment))).environments.find?
      environment
    = (cycleReport r' errors).environments.find? environment
  := by
  induction errors generalizing r r' with
  | nil => apply h
  | cons e errors ih =>
    by_cases he : e.environment.getD "" = environment
    · rw [List.filter_cons_of_pos (by simpa using he)]
      apply ih
      simp only [Report.set, Report.environment, Table.find?_insert, he, h]
    · rw [List.filter_cons_of_neg (by simpa using he)]
      apply ih
      simp only [Report.set, Table.find?_insert, he, if_false, h]

end Setup

namespace Job

variable {configs : List Config} {environment : String}

/-- The configs that come up in an environment are those of the environment, sorted. -/
theorem filter_items_unsorted
    (configs : List Config) (environment : String) :
  (unsorted configs).items.filter (fun item => item.1 = environment)
    = (Sorted.ofConfigs (configs.filter (fun c => c.environment = environment))
        environment).configs.map (fun c => (environment, c))
  := by
  rw [items, Setup.filter_itemsOf, SortedEnvironments.getD_find?_configs]

theorem filter_filter_environment
    (configs : List Config) (environment : String) :
  (configs.filter (fun c => c.environment = environment)).filter
      (fun c => c.environment = environment)
    = configs.filter (fun c => c.environment = environment)
  := by
  rw [List.filter_filter]
  simp only [Bool.and_self]

/-- The configs of an environment alone come up as they do among others. -/
theorem items_filter
    (configs : List Config) (environment : String) :
  (unsorted (configs.filter (fun c => c.environment = environment))).items
    = (unsorted configs).items.filter (fun item => item.1 = environment)
  := by
  have hown : ∀ item ∈ (unsorted (configs.filter (fun c => c.environment = environment))).items,
      decide (item.1 = environment) = true := by
    intro item hitem
    have hmem : item
        ∈ (unsorted (configs.filter (fun c => c.environment = environment))).items.filter
          (fun other => other.1 = item.1) := List.mem_filter.mpr ⟨hitem, decide_eq_true rfl⟩
    rw [filter_items_unsorted] at hmem
    obtain ⟨c, hc, -⟩ := List.mem_map.mp hmem
    obtain ⟨hc, hitem⟩ := List.mem_filter.mp (Sorted.mem_of_mem_configs hc)
    rw [← of_decide_eq_true hitem]
    apply (List.mem_filter.mp hc).2
  calc (unsorted (configs.filter (fun c => c.environment = environment))).items
      = (unsorted (configs.filter (fun c => c.environment = environment))).items.filter
          (fun item => item.1 = environment) := (List.filter_eq_self.mpr hown).symm
    _ = (unsorted configs).items.filter (fun item => item.1 = environment) := by
        rw [filter_items_unsorted, filter_filter_environment, filter_items_unsorted]

/-- The loops of an environment alone are those that are known among others. -/
theorem cycleErrors_filter
    (configs : List Config) (environment : String) :
  (unsorted (configs.filter (fun c => c.environment = environment))).cycleErrors
    = (unsorted configs).cycleErrors.filter (fun e => e.environment.getD "" = environment)
  := by
  have hown : ∀ e ∈ (unsorted (configs.filter
      (fun c => c.environment = environment))).cycleErrors,
      decide (e.environment.getD "" = environment) = true := by
    intro e he
    have hmem : e ∈ (unsorted (configs.filter
        (fun c => c.environment = environment))).cycleErrors.filter
          (fun other => other.environment.getD "" = e.environment.getD "") :=
      List.mem_filter.mpr ⟨he, decide_eq_true rfl⟩
    rw [cycleErrors, SortedEnvironments.filter_errors] at hmem
    rcases Sorted.ofConfigs_cases _ (e.environment.getD "") with ⟨-, hnil⟩ | ⟨hne, -⟩
    · rw [hnil] at hmem
      cases hmem
    · obtain ⟨c, hc⟩ := List.exists_mem_of_ne_nil _ hne
      obtain ⟨hc, hthere⟩ := List.mem_filter.mp hc
      rw [← of_decide_eq_true hthere]
      apply (List.mem_filter.mp hc).2
  calc (unsorted (configs.filter (fun c => c.environment = environment))).cycleErrors
      = (unsorted (configs.filter (fun c => c.environment = environment))).cycleErrors.filter
          (fun e => e.environment.getD "" = environment) := (List.filter_eq_self.mpr hown).symm
    _ = (unsorted configs).cycleErrors.filter (fun e => e.environment.getD "" = environment) := by
        rw [cycleErrors, cycleErrors, SortedEnvironments.filter_errors, filter_filter_environment,
          SortedEnvironments.filter_errors]

/-- The beginning of a run over the configs of an environment alone mirrors that of a run over
all of them. -/
theorem start_mirrors
    (setup : Setup σ) (view : σ → τ) (configs : List Config) (environment : String)
    (s : Session σ) :
  ((unsorted (configs.filter (fun c => c.environment = environment))).start setup s).Mirrors view
    environment ((unsorted configs).start setup s)
  := by
  constructor
  · rw [start, cycleErrors_filter]
    apply Setup.find?_cycleReport rfl
  · rfl
  · exact .of_eq rfl rfl

/-- Environments are isolated from each other.  If a run over configs in any order comes to an
end without being cancelled, continues after errors and has separate clients, then a run over
the configs of one of the environments alone comes to an end as well: it has the same report of
the environment, with its outcomes, its errors and its books, makes the same calls there, and
leaves the part of its client in the same state. -/
theorem environments_isolated
    {setup : Setup σ} {view : String → σ → τ} (hseparate : setup.clients.AreSeparate view)
    (hcontinue : setup.options.continueOnError = true) (hcancel : ∀ n, setup.cancelled n = false)
    {s s' : Session σ} {report : Report}
    (h : (unsorted configs).run setup s = .ok (report, s')) (environment : String) :
  ∃ alone s'', (unsorted (configs.filter (fun c => c.environment = environment))).run setup s
      = .ok (alone, s'')
    ∧ alone.environments.find? environment = report.environments.find? environment
    ∧ Visit.callsIn setup environment
        ((unsorted (configs.filter (fun c => c.environment = environment))).visits setup s)
      = Visit.callsIn setup environment ((unsorted configs).visits setup s)
    ∧ view environment s''.client = view environment s'.client
  := by
  rw [run_eq, Setup.runItems] at h
  split at h
  · cases h
  · rename_i q hq
    obtain ⟨rfl, -⟩ := Setup.finish_eq_ok h
    obtain ⟨p, hp, hmirrors, hcalls⟩ := Setup.process_mirrors hseparate hcontinue hcancel
      (start_mirrors setup (view environment) configs environment s) hq
    rw [← items_filter] at hp hcalls
    obtain ⟨s'', hfinish, hclient⟩ := Setup.finish_mirrors hmirrors h
    use p.report, s''
    rw [run_of_process hp]
    exact ⟨hfinish, hmirrors.report, hcalls, hclient⟩

end Job

namespace Sample

/-- The first dashboard in another environment. -/
def replica : Config :=
  { board with environment := "live" }

/-- The first dashboard in another environment, where its payload is not JSON. -/
def defect : Config :=
  { board with
    template := ⟨"board.json", "["⟩
    environment := "live" }

/-- A run over two environments, each with a client of its own. -/
def separated : Setup (Table String Recording) :=
  ⟨conditions, {}, .separate Recording.client ["live", "test"], fun _ => false⟩

/-- A session in which neither client has been called. -/
def separatedSession : Session (Table String Recording) :=
  ⟨.ofList [("live", .ofName "live"), ("test", .ofName "test")], none, ⟨.empty, []⟩, []⟩

end Sample

/-- The dashboards are deployed in their environment as if they were not defective in another
one. -/
theorem environments_isolated_defect :
  ∃ report s' alone s'',
    (Job.unsorted [Sample.overview, Sample.defect, Sample.board]).run Sample.separated
        Sample.separatedSession = .ok (report, s')
      ∧ (Job.unsorted [Sample.overview, Sample.board]).run Sample.separated
        Sample.separatedSession = .ok (alone, s'')
      ∧ report.allOk = false ∧ alone.allOk = true
      ∧ alone.environments.find? "test" = report.environments.find? "test"
  := by
  have hrun : ((Job.unsorted [Sample.overview, Sample.defect, Sample.board]).run Sample.separated
      Sample.separatedSession).toOption.map (fun result => result.1.allOk) = some false := by
    decide +kernel
  have halone : ((Job.unsorted [Sample.overview, Sample.board]).run Sample.separated
      Sample.separatedSession).toOption.map (fun result => result.1.allOk) = some true := by
    decide +kernel
  obtain ⟨⟨report, s'⟩, h, hdefect⟩ := exists_eq_ok hrun
  obtain ⟨alone, s'', h', hreport, -, -⟩ := Job.environments_isolated
    (Clients.areSeparate_separate Recording.client ["live", "test"]) rfl (fun _ => rfl) h "test"
  have hconfigs : [Sample.overview, Sample.defect, Sample.board].filter
      (fun c => c.environment = "test") = [Sample.overview, Sample.board] := rfl
  rw [hconfigs] at h'
  rw [h'] at halone
  exact ⟨report, s', alone, s'', h, h', hdefect, Option.some.inj halone, hreport⟩

end Rollout
