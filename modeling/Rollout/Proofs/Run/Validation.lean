import Rollout.Proofs.Deploy.Agreement
import Rollout.Proofs.Run.Completion

/-!
# What a validation predicts

A validation goes through the same configs as the run that it stands for, and it comes to
the same verdicts, as long as no config reads a remote id or a remote name and every request
is answered.  The two runs differ in what the platform says of its objects and in nothing
else.
-/

namespace Rollout

variable {σ : Type}

/-- The report of an environment without what the platform says of its objects. -/
def EnvironmentReport.outline (r : EnvironmentReport) : EnvironmentReport :=
  { r with outcomes := r.outcomes.map Outcome.verdict, books := r.books.outline }

/-- The reports of the environments without what the platform says of its objects. -/
def Report.outline (r : Report) : Table String EnvironmentReport :=
  r.environments.map EnvironmentReport.outline

namespace Setup

/-- The same run as a validation. -/
def dry (setup : Setup σ) : Setup σ :=
  { setup with options := { setup.options with dryRun := true } }

/-- The client for a config that is visited answers whatever it is asked. -/
def Answers (setup : Setup σ) (v : Visit σ) : Prop :=
  ∃ client, setup.clients v.environment = some client ∧ client.Answers v.session.client

end Setup

/-- What a visit comes to, without the entity. -/
def Visit.verdict? (v : Visit σ) : Option Outcome :=
  v.outcome?.map Outcome.verdict

theorem Visit.state?_eq
    (v : Visit σ) :
  v.state? = v.verdict?.map Outcome.state
  := by
  rw [state?, verdict?, Option.map_map]
  rfl

theorem Setup.stops_dry_iff
    {setup : Setup σ} {v v' : Visit σ} (h : v.verdict? = v'.verdict?) :
  setup.Stops v ↔ setup.dry.Stops v'
  := by
  rw [Stops, Stops, Visit.state?_eq, Visit.state?_eq, h]
  rfl

/-! ### One visit -/

namespace Report

variable {r r' : Report}

theorem outline_environment
    (h : r.outline = r'.outline) (name : String) :
  (r.environment name).outline = (r'.environment name).outline
  := by
  have hfind : ∀ r : Report, (r.environment name).outline
      = (r.outline.find? name).getD (EnvironmentReport.empty name).outline := by
    intro r
    rw [environment, outline, Table.find?_map]
    cases r.environments.find? name <;> rfl
  rw [hfind, hfind, h]

theorem outline_set
    (h : r.outline = r'.outline) (name : String) {e e' : EnvironmentReport}
    (he : e.outline = e'.outline) :
  (r.set name e).outline = (r'.set name e').outline
  := by
  rw [outline, outline] at h ⊢
  rw [set, set, Table.map_insert, Table.map_insert, h, he]

theorem outline_enter
    (h : r.outline = r'.outline) (name : String) :
  (r.enter name).outline = (r'.enter name).outline
  := by
  apply outline_set h
  apply outline_environment h

theorem outline_books
    (h : r.outline = r'.outline) (name : String) :
  (r.environment name).books.outline = (r'.environment name).books.outline
  := congrArg EnvironmentReport.books (outline_environment h name)

end Report

theorem EnvironmentReport.outline_add
    {r r' : EnvironmentReport} (h : r.outline = r'.outline) {o o' : Outcome}
    (ho : o.verdict = o'.verdict) {b b' : Books} (hb : b.outline = b'.outline) :
  (r.add o b).outline = (r'.add o' b').outline
  := by
  obtain ⟨henvironment, houtcomes, herrors, -⟩ := EnvironmentReport.mk.inj h
  have hnew := (Outcome.mk.inj ho).2.2.2.2.2
  simp only [outline, add, List.map_append, List.map_cons, List.map_nil, henvironment,
    houtcomes, herrors, hnew, ho, hb]

/-- Two runs have come equally far, but for what the platform says of its objects. -/
structure Progress.Agrees (p p' : Progress σ) : Prop where
  outline : p.report.outline = p'.report.outline
  aborted : p.report.aborted = p'.report.aborted

/-- Visits to the same verdict keep two runs equally far. -/
theorem Progress.Agrees.follow
    {p p' : Progress σ} (h : p.Agrees p') {options options' : Options} {v v' : Visit σ}
    (henvironment : v.environment = v'.environment) {o o' : Outcome} (ho : v.outcome? = some o)
    (ho' : v'.outcome? = some o') (hverdict : o.verdict = o'.verdict)
    (hbooks : v.deployed.books.outline = v'.deployed.books.outline) :
  (p.follow options v).Agrees (p'.follow options' v')
  := by
  rw [follow_of_outcome _ _ ho, follow_of_outcome _ _ ho', henvironment]
  constructor
  · have henter := Report.outline_enter h.outline v'.environment
    apply Report.outline_set henter
    apply EnvironmentReport.outline_add (Report.outline_environment henter _) hverdict hbooks
  · apply h.aborted

namespace Setup

variable {setup : Setup σ} {items : List (String × Config)} {p p' q : Progress σ}

/-- The validation of a config comes to the verdict of its deployment. -/
theorem visit_dry
    (hreal : setup.options.dryRun = false) (hagree : p.Agrees p') {environment : String}
    {c : Config} (hlocal : c.IsLocal) (hanswers : setup.Answers (setup.visit p environment c))
    (hscope : c.HasWritableScope setup.conditions.vars
      (setup.visit p environment c).books.registry)
    {o : Outcome} (ho : (setup.visit p environment c).outcome? = some o) :
  ∃ o', (setup.dry.visit p' environment c).outcome? = some o' ∧ o.verdict = o'.verdict
    ∧ (setup.visit p environment c).deployed.books.outline
      = (setup.dry.visit p' environment c).deployed.books.outline
  := by
  obtain ⟨client, hclient, hanswers⟩ := hanswers
  have hbooks : (setup.visit p environment c).books.outline
      = (setup.dry.visit p' environment c).books.outline := by
    rw [books_visit, books_visit]
    apply Report.outline_books hagree.outline
  have hdeployed : (setup.visit p environment c).deployed
      = c.deploy setup.conditions (.push client) environment
        (setup.visit p environment c).books (setup.visit p environment c).session := by
    simp only [visit, deploy, hreal] at hclient ⊢
    simp only [hclient]
    rfl
  have hvalidated : (setup.dry.visit p' environment c).deployed
      = c.deploy setup.conditions .validate environment
        (setup.dry.visit p' environment c).books (setup.dry.visit p' environment c).session := rfl
  rw [Visit.outcome?_eq_some_iff, hdeployed] at ho
  simp only [Visit.outcome?_eq_some_iff, hdeployed, hvalidated]
  apply Config.validate_of_push hlocal hbooks hanswers hscope ho

/-- The validation of configs comes to the verdicts of their deployment, one after another,
and it stops where that does. -/
theorem process_dry
    (hreal : setup.options.dryRun = false) (hcancel : ∀ n, setup.cancelled n = false)
    (hagree : p.Agrees p') (hlocal : ∀ item ∈ items, item.2.IsLocal)
    (hanswers : ∀ v ∈ setup.visits items p, setup.Answers v)
    (hscope : ∀ v ∈ setup.visits items p,
      v.config.HasWritableScope setup.conditions.vars v.books.registry)
    (h : setup.process items p = .ok q) :
  ∃ q', setup.dry.process items p' = .ok q' ∧ q.Agrees q'
    ∧ (setup.visits items p).map Visit.verdict? = (setup.dry.visits items p').map Visit.verdict?
  := by
  -- Both starts vary: a visit moves each of the two runs on to a progress of its own.
  induction items generalizing p p' with
  | nil =>
    cases h
    exact ⟨p', rfl, hagree, rfl⟩
  | cons item rest ih =>
    obtain ⟨environment, c⟩ := item
    obtain ⟨hc, hrest⟩ := List.forall_mem_cons.mp hlocal
    have hvisit : setup.visit p environment c ∈ setup.visits ((environment, c) :: rest) p :=
      visit_mem_visits (hcancel p.processed)
    obtain ⟨o, ho⟩ := process_isOk_iff.mp ⟨q, h⟩ _ hvisit
    obtain ⟨o', ho', hverdict, hbooks⟩ :=
      visit_dry hreal hagree hc (hanswers _ hvisit) (hscope _ hvisit) ho
    have hfollow : (p.follow setup.options (setup.visit p environment c)).Agrees
        (p'.follow setup.dry.options (setup.dry.visit p' environment c)) :=
      hagree.follow rfl ho ho' hverdict hbooks
    have hverdict? : (setup.visit p environment c).verdict?
        = (setup.dry.visit p' environment c).verdict? := by
      rw [Visit.verdict?, Visit.verdict?, ho, ho', Option.map_some, Option.map_some, hverdict]
    by_cases hstop : setup.Stops (setup.visit p environment c)
    · obtain ⟨hvisits, hprocess⟩ := setup.step_of_stops rest (hcancel _) ho hstop
      obtain ⟨hvisits', hprocess'⟩ :=
        setup.dry.step_of_stops rest (hcancel p'.processed) ho' ((stops_dry_iff hverdict?).mp hstop)
      rw [hprocess] at h
      cases h
      rw [hvisits, hvisits', hprocess', List.map_singleton, List.map_singleton, hverdict?]
      exact ⟨_, rfl, ⟨hfollow.outline, rfl⟩, rfl⟩
    · obtain ⟨hvisits, hprocess⟩ := setup.step_of_goes_on rest (hcancel _) ho hstop
      obtain ⟨hvisits', hprocess'⟩ :=
        setup.dry.step_of_goes_on rest (hcancel p'.processed) ho'
          (mt (stops_dry_iff hverdict?).mpr hstop)
      rw [hprocess] at h
      rw [hvisits] at hanswers hscope
      obtain ⟨q', hq', hagree', hverdicts⟩ := ih hfollow hrest
        (List.forall_mem_cons.mp hanswers).2 (List.forall_mem_cons.mp hscope).2 h
      rw [hvisits, hvisits', hprocess', List.map_cons, List.map_cons, hverdict?, hverdicts]
      exact ⟨q', hq', hagree', rfl⟩

/-! ### The clients -/

theorem client_deploy_dry
    (setup : Setup σ) (environment : String) (c : Config) (b : Books) (s : Session σ) :
  (setup.dry.deploy environment c b s).session.client = s.client
  := by
  have hdeploy : setup.dry.deploy environment c b s
      = c.deploy setup.conditions .validate environment b s := rfl
  rw [hdeploy]
  apply (c.course_deploy setup.conditions .validate environment b s).client_validate

/-- The end of a validation brings no fault. -/
theorem finish_dry
    (setup : Setup σ) (p : Progress σ) :
  ∃ s', setup.dry.finish p = .ok (p.report, s')
  := by
  have hstubs : ∀ s, setup.dry.writeStubs s = .ok s := by
    intro s
    rw [writeStubs.eq_def]
    cases s.recorder <;> rfl
  simp only [finish, hstubs]
  exact ⟨_, rfl⟩

theorem outline_cycleReport
    {r r' : Report} (h : r.outline = r'.outline) (errors : List DeployError) :
  (cycleReport r errors).outline = (cycleReport r' errors).outline
  := by
  induction errors generalizing r r' with
  | nil => apply h
  | cons e errors ih =>
    apply ih
    apply Report.outline_set h
    obtain ⟨henvironment, houtcomes, herrors, hbooks⟩ :=
      EnvironmentReport.mk.inj (Report.outline_environment h (e.environment.getD ""))
    simp only [EnvironmentReport.outline, EnvironmentReport.addErrors, henvironment, houtcomes,
      herrors, hbooks]

end Setup

/-! ### Whole runs -/

namespace Job

variable {job : Job} {setup : Setup σ} {s s' : Session σ} {report : Report}

theorem agrees_start
    (job : Job) (setup : Setup σ) (s : Session σ) :
  (job.start setup s).Agrees (job.start setup.dry s)
  := by
  constructor
  · apply Setup.outline_cycleReport
    rfl
  · rw [(job.flags_start setup s).2, (job.flags_start setup.dry s).2]

/-- A validation calls no client. -/
theorem client_dry
    (h : job.run setup.dry s = .ok (report, s')) :
  s'.client = s.client ∧ ∀ v ∈ job.visits setup.dry s, setup.dry.IsSilent v
  := by
  constructor
  · rw [(run_eq_ok h).2.2]
    apply Setup.session_after (I := fun t => t.client = s.client)
    · intro t log ht
      apply ht
    · intro environment c b t ht
      rw [Setup.client_deploy_dry, ht]
    · exact (job.visits setup.dry s).append_nil.symm
    · rfl
  · intro v hv clients _
    rw [deployed_visit hv]
    rfl

/-- A validation predicts the run that it stands for: if that run comes to an end without
being cancelled, every request is answered, scopes have a text, and no config reads a remote
id or a remote name, then the validation comes to an end with the same verdicts in the same
order, it stops where the run does, and its report is the same but for what the platform says
of its objects.  It calls no client. -/
theorem validation_predicts
    (hreal : setup.options.dryRun = false) (hcancel : ∀ n, setup.cancelled n = false)
    (hlocal : ∀ item ∈ job.items, item.2.IsLocal)
    (hanswers : ∀ v ∈ job.visits setup s, setup.Answers v)
    (hscope : ∀ v ∈ job.visits setup s,
      v.config.HasWritableScope setup.conditions.vars v.books.registry)
    (h : job.run setup s = .ok (report, s')) :
  ∃ validated s'', job.run setup.dry s = .ok (validated, s'')
    ∧ (job.visits setup s).map Visit.verdict? = (job.visits setup.dry s).map Visit.verdict?
    ∧ report.aborted = validated.aborted ∧ report.outline = validated.outline
    ∧ s''.client = s.client ∧ ∀ v ∈ job.visits setup.dry s, setup.dry.IsSilent v
  := by
  rw [run_eq, Setup.runItems] at h
  split at h
  · cases h
  · rename_i q hq
    obtain ⟨hreport, -⟩ := Setup.finish_eq_ok h
    obtain ⟨q', hq', hagree, hverdicts⟩ :=
      Setup.process_dry hreal hcancel (agrees_start job setup s) hlocal hanswers hscope hq
    obtain ⟨s'', hfinish⟩ := setup.finish_dry q'
    have hdry : job.run setup.dry s = .ok (q'.report, s'') := by
      rw [run_of_process hq']
      apply hfinish
    rw [hreport]
    exact ⟨q'.report, s'', hdry, hverdicts, hagree.aborted, hagree.outline, client_dry hdry⟩

end Job

/-! ### Two configs that are linked by a title -/

/-- The recording client answers unless it has been told to refuse. -/
theorem Recording.answers
    {r : Recording} (houtage : r.outage = none) (hrefused : r.refused.entries = []) :
  client.Answers r
  := by
  intro request
  have hnone : ∀ requests, ({ r with requests } : Recording).refusal? request = none := by
    intro requests
    rw [refusal?, houtage]
    dsimp only
    rw [Table.find?, hrefused]
    rfl
  simp only [client, hnone]
  exact ⟨_, _, rfl⟩

namespace Sample

/-- The first dashboard with a title. -/
def titled : Config :=
  { board with
    parameters := .ofList [(nameParameter, .value (.text "Board")),
      ("title", .value (.text "Sales"))] }

/-- A settings object that shows the title of the first dashboard. -/
def caption : Config where
  coordinate := ⟨"shop", "settings", "caption"⟩
  target := .settings "builtin:caption" "1"
  template := ⟨"caption.json", "[\x7b\x7btitles\x7d\x7d]"⟩
  parameters := .ofList [(scopeParameter, .value (.text "environment")),
    ("titles", .list [.reference ⟨board.coordinate, "title"⟩])]
  skip := .fixed false
  environment := "test"
  group := ""

end Sample

/-- The validation of the two linked configs predicts their deployment. -/
theorem validation_predicts_caption :
  ∃ report s' validated s'',
    (Job.unsorted [Sample.caption, Sample.titled]).run Sample.setup Sample.session
        = .ok (report, s')
      ∧ (Job.unsorted [Sample.caption, Sample.titled]).run Sample.setup.dry Sample.session
        = .ok (validated, s'')
      ∧ report.allOk = true ∧ report.outline = validated.outline
      ∧ s''.client = Sample.session.client
  := by
  have hok : ((Job.unsorted [Sample.caption, Sample.titled]).run Sample.setup
      Sample.session).toOption.map (fun result => result.1.allOk) = some true := by
    decide +kernel
  have hvisits : ∀ observed ∈ ((Job.unsorted [Sample.caption, Sample.titled]).visits Sample.setup
      Sample.session).map (fun v => (v.session.client.outage, v.session.client.refused.entries,
        ((v.config.values Sample.setup.conditions.vars v.books.registry).find? scopeParameter).map
          (fun scope => scope.display.toOption.isSome))),
      observed.1 = none ∧ observed.2.1 = [] ∧ observed.2.2 ≠ some false := by
    decide +kernel
  have hlocal : ∀ item ∈ (Job.unsorted [Sample.caption, Sample.titled]).items,
      item.2.IsLocal := by
    simp only [Config.IsLocal]
    decide +kernel
  have hanswers : ∀ v ∈ (Job.unsorted [Sample.caption, Sample.titled]).visits Sample.setup
      Sample.session, Sample.setup.Answers v := by
    intro v hv
    obtain ⟨houtage, hrefused, -⟩ := hvisits _ (List.mem_map_of_mem hv)
    exact ⟨Recording.client, rfl, Recording.answers houtage hrefused⟩
  have hscope : ∀ v ∈ (Job.unsorted [Sample.caption, Sample.titled]).visits Sample.setup
      Sample.session,
      v.config.HasWritableScope Sample.setup.conditions.vars v.books.registry := by
    intro v hv _ scope hscope
    obtain ⟨-, -, hdisplay⟩ := hvisits _ (List.mem_map_of_mem hv)
    rw [hscope] at hdisplay
    cases hresult : scope.display with
    | ok text => exact ⟨text, rfl⟩
    | error reason => simp [hresult, Except.toOption] at hdisplay
  obtain ⟨⟨report, s'⟩, h, hallOk⟩ := exists_eq_ok hok
  obtain ⟨validated, s'', hdry, -, -, houtline, hclient, -⟩ :=
    Job.validation_predicts rfl (fun _ => rfl) hlocal hanswers hscope h
  exact ⟨report, s', validated, s'', h, hdry, hallOk, houtline, hclient⟩

end Rollout
