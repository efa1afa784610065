import Rollout.Proofs.Deploy.Stubs
import Rollout.Proofs.Run.Accounts
import Rollout.Proofs.Run.Recordings

/-!
# The entries of a registry

At any time of a run the registry of an environment is told by the outcomes there so far.
It has an entry for each coordinate at which a config was deployed or left out, and the
entry is what the latest such config left behind: nothing to be read if it was left out, and
otherwise the values of its parameters, with an id and a name that can always be read.
-/

namespace Rollout

variable {σ : Type}

/-! ### What a deployment enters -/

namespace Config

variable {c : Config} {conditions : Conditions} {registry : Registry} {names : NameIndex}

/-- A config leaves an entity behind if it is left out, or if it passes every check and its
plan is carried out. -/
theorem Course.entered
    {mode : Mode σ} {environment : String} {b : Books} {s : Session σ} {d : Deployed σ}
    {o : Outcome} {e : Entity} (hcourse : c.Course conditions mode environment b s d)
    (h : d.result = .ok o) (he : o.entity = some e) :
  (o.state = .skipped ∧ e = c.skippedEntity)
    ∨ o.state = .deployed ∧ ∃ plan remote, c.Passes conditions b.registry b.names plan
      ∧ (plan.carryOut mode c s.client).1 = .ok remote
      ∧ o.variant = some plan.route.variant ∧ e = c.deployedEntity plan remote
  := by
  cases hcourse with
  | fault | unwritten => cases h
  | failed | refused =>
    cases h
    cases he
  | skipped =>
    cases h
    cases he
    exact .inl ⟨rfl, rfl⟩
  | deployed passes carried =>
    cases h
    cases he
    exact .inr ⟨rfl, _, _, passes, by rw [carried], rfl, rfl⟩

end Config

/-! ### What a visit enters -/

namespace Visit

/-- The id that the platform gives the config of a visit, in answer to the request for it, or
the one that it is given in its place if nothing is pushed. -/
inductive Identifies (setup : Setup σ) (v : Visit σ) : String → Prop where
  | answered {client : Client σ} {request : Request} {remote : RemoteEntity}
      (real : setup.options.dryRun = false)
      (served : setup.clients v.environment = some client)
      (asks : v.Asks setup request)
      (answer : (client.upsert request v.session.client).1 = .ok remote) :
      Identifies setup v remote.id
  | validated (dry : setup.options.dryRun = true) :
      Identifies setup v (Identity.uuid v.config.coordinate)

/-- What the config of a visit leaves behind according to its outcome. -/
inductive Enters (setup : Setup σ) (v : Visit σ) (o : Outcome) (e : Entity) : Prop where
  /-- It is left out, and there is nothing to be read. -/
  | skipped (state : o.state = .skipped) (skip : e.skip = true)
      (properties : e.properties = .empty)
  /-- It is deployed, and all its parameters can be read, but its id and its name in the
  place of parameters that are called like these. -/
  | deployed {id : String} {name : Value} {text : String} (state : o.state = .deployed)
      (skip : e.skip = false)
      (resolved : v.config.parameterErrors setup.conditions.vars v.books.registry = [])
      (identifies : v.Identifies setup id) (name_text : name.text? = some text)
      (properties : e.properties
        = ((v.config.values setup.conditions.vars v.books.registry).insert idProperty
            (.text id)).insert nameParameter name)

variable {setup : Setup σ} {v : Visit σ} {o : Outcome} {e : Entity}

/-- On a visit of a run that only validates, the config is validated. -/
theorem course_dry
    (hdry : setup.options.dryRun = true)
    (hv : v.deployed = setup.deploy v.environment v.config v.books v.session) :
  v.config.Course setup.conditions .validate v.environment v.books v.session v.deployed
  := by
  rw [hv, Setup.deploy, if_pos hdry]
  apply v.config.course_deploy

/-- A plan that is carried out on a visit leaves what the visit enters. -/
theorem Enters.of_passes
    {plan : Plan} {remote : RemoteEntity} (hstate : o.state = .deployed)
    (hpasses : v.config.Passes setup.conditions v.books.registry v.books.names plan)
    (hid : v.Identifies setup remote.id) :
  v.Enters setup o (v.config.deployedEntity plan remote)
  := by
  have htext := hpasses.text?_nameValue remote
  apply Enters.deployed hstate rfl hpasses.errors hid htext
  rw [← hpasses.properties]
  rfl

/-- Whatever the config of a visit leaves behind, it enters. -/
theorem enters_of_deploy
    (hv : v.deployed = setup.deploy v.environment v.config v.books v.session)
    (ho : v.outcome? = some o) (he : o.entity = some e) :
  e.coordinate = v.config.coordinate ∧ v.Enters setup o e
  := by
  have hresult := outcome?_eq_some_iff.mp ho
  cases hdry : setup.options.dryRun with
  | true =>
    rcases (course_dry hdry hv).entered hresult he with
      ⟨hstate, rfl⟩ | ⟨hstate, plan, remote, hpasses, hcarried, -, rfl⟩
    · exact ⟨rfl, .skipped hstate rfl rfl⟩
    · use rfl
      apply Enters.of_passes hstate hpasses
      obtain rfl : v.config.localAnswer plan = remote := by cases hcarried; rfl
      apply Identifies.validated hdry
  | false =>
    rcases course hdry hv with ⟨-, hunserved⟩ | ⟨client, hclient, hcourse⟩
    · rw [hunserved] at hresult
      cases hresult
      cases he
    · rcases hcourse.entered hresult he with
        ⟨hstate, rfl⟩ | ⟨hstate, plan, remote, hpasses, hcarried, hvariant, rfl⟩
      · exact ⟨rfl, .skipped hstate rfl rfl⟩
      · use rfl
        apply Enters.of_passes hstate hpasses
        rw [Plan.carryOut] at hcarried
        split at hcarried
        · cases hcarried
        · rename_i request hrequest
          apply Identifies.answered hdry hclient _ hcarried
          use o, plan.route.variant, ho, hvariant
          apply hpasses.asks hrequest

end Visit

/-- An outcome is good exactly if it leaves something behind. -/
theorem Config.Contained.ok_iff
    {c : Config} {conditions : Conditions} {b : Books} {s : Session σ} {o : Outcome}
    {d : Deployed σ} (h : c.Contained conditions b s o d) :
  o.ok = true ↔ ∃ e, o.entity = some e
  := by
  have hpending := h.not_pending
  have hfailed := h.failed_iff_entity
  rw [← Option.ne_none_iff_exists', Ne, ← hfailed, Outcome.ok]
  cases hstate : o.state with
  | pending => exact absurd hstate hpending
  | skipped | failed | deployed => simp

/-! ### What a reference reads -/

/-- The id and the name of a deployed config can be read, as texts. -/
theorem Visit.Enters.reads
    {setup : Setup σ} {v : Visit σ} {o : Outcome} {e : Entity} (h : v.Enters setup o e)
    (hskip : e.skip = false) {property : String}
    (hproperty : property = idProperty ∨ property = nameParameter) :
  ∃ value text, e.properties.find? property = some value ∧ value.text? = some text
  := by
  cases h with
  | skipped _ skip =>
    rw [hskip] at skip
    cases skip
  | @deployed id name text _ _ _ _ name_text properties =>
    rw [properties, Table.find?_insert, Table.find?_insert]
    rcases hproperty with rfl | rfl
    · use .text id, id
      rw [if_neg (by decide : nameParameter ≠ idProperty), if_pos rfl]
      exact ⟨rfl, rfl⟩
    · use name, text
      rw [if_pos rfl]
      exact ⟨rfl, name_text⟩

/-- A property is missing only from what a config has left behind that is not skipped. -/
theorem Parameter.exists_entry_of_resolve
    {vars : Variables} {registry : Registry} {site : Site} {r : Reference}
    (h : (Parameter.reference r).resolve vars registry site
      = .error (.deploy (site.noProperty r))) :
  ∃ e, registry.find? r.target = some e ∧ e.skip = false
  := by
  rw [resolve] at h
  have hfollowed := followed_follow registry site r
  cases hfollow : follow registry site r with
  | ok v =>
    rw [hfollow] at h
    cases h
  | error e =>
    rw [hfollow] at h hfollowed
    have hkind := congrArg DeployError.kind (ResolveFailure.deploy.inj (Except.error.inj h))
    cases hfollowed with
    | lacking found skip => exact ⟨_, found, skip⟩
    | missing | skipped => cases hkind

/-! ### After some visits -/

/-- An entity was left behind at a coordinate of an environment by the latest visit there
whose outcome is good. -/
inductive Entered (setup : Setup σ) (environment : String) (t : Coordinate) (e : Entity) :
    List (Visit σ) → Prop where
  | intro {before after : List (Visit σ)} {v : Visit σ} {o : Outcome}
      (here : v.environment = environment) (outcome : v.outcome? = some o)
      (coordinate : o.coordinate = t) (good : o.ok = true) (entity : o.entity = some e)
      (enters : v.Enters setup o e)
      (latest : ∀ u ∈ after, u.environment = environment → ∀ later, u.outcome? = some later →
        later.coordinate = t → later.ok = false) :
      Entered setup environment t e (before ++ v :: after)

/-- The registry of an environment is told by the outcomes of the visits there. -/
structure EnvironmentReport.IsTold (r : EnvironmentReport) (setup : Setup σ)
    (environment : String) (history : List (Visit σ)) : Prop where
  outcomes : r.outcomes = Visit.outcomes environment history
  /-- There is an entry for each coordinate at which an outcome is good. -/
  keys : ∀ t, t ∈ r.books.registry.keys ↔ ∃ o ∈ r.outcomes, o.ok = true ∧ o.coordinate = t
  /-- An entry is what the latest such outcome left behind. -/
  entries : ∀ t e, r.books.registry.find? t = some e →
    e.coordinate = t ∧ Entered setup environment t e history
  /-- A reference to the id or the name of a deployed config leads to a text. -/
  reads : ∀ t e, r.books.registry.find? t = some e → e.skip = false →
    ∀ property, property = idProperty ∨ property = nameParameter → ∀ vars site,
      ∃ value text, (Parameter.reference ⟨t, property⟩).resolve vars r.books.registry site
          = .ok value
        ∧ value.text? = some text
  /-- An id or a name is never missing. -/
  never_missing : ∀ reference : Reference,
    reference.property = idProperty ∨ reference.property = nameParameter → ∀ vars site,
      (Parameter.reference reference).resolve vars r.books.registry site
        ≠ .error (.deploy (site.noProperty reference))

namespace Job

variable {job : Job} {setup : Setup σ} {s : Session σ} {history rest : List (Visit σ)}
  {environment : String}

/-- An entry was left behind by the latest visit with a good outcome. -/
theorem entered_after
    (h : job.visits setup s = history ++ rest) {t : Coordinate} {e : Entity}
    (he : (job.booksAfter setup s history environment).registry.find? t = some e) :
  e.coordinate = t ∧ Entered setup environment t e history
  := by
  rw [registry_booksAfter h] at he
  obtain ⟨before, v, after, rfl, ⟨henvironment, hcoordinate⟩, hentity, hlater⟩ :=
    Visit.latest?_eq_some he
  have hmem : ∀ u ∈ before ++ v :: after, u ∈ job.visits setup s := by
    intro u hu
    rw [h]
    apply List.mem_append_left _ hu
  have hv := hmem v (List.mem_append_right _ List.mem_cons_self)
  obtain ⟨o, ho, hoe⟩ := Option.bind_eq_some_iff.mp hentity
  obtain ⟨hown, henters⟩ := Visit.enters_of_deploy (deployed_visit hv) ho hoe
  use hown.trans hcoordinate
  apply Entered.intro henvironment ho
  · apply (isOf_outcome hv ho).1.trans hcoordinate
  · apply (contained_outcome hv ho).ok_iff.mpr ⟨e, hoe⟩
  · apply hoe
  · apply henters
  · intro u hu huenvironment later houtcome hlatercoordinate
    have humem := hmem u (List.mem_append_right _ (List.mem_cons_of_mem _ hu))
    have hat := (isOf_outcome humem houtcome).1.symm.trans hlatercoordinate
    have hnone := hlater u hu ⟨huenvironment, hat⟩
    rw [Visit.entity?, houtcome, Option.bind_some] at hnone
    apply Bool.eq_false_iff.mpr
    rw [Ne, (contained_outcome humem houtcome).ok_iff, hnone]
    simp

/-- There is an entry for each coordinate at which an outcome is good. -/
theorem mem_keys_after
    (h : job.visits setup s = history ++ rest) {t : Coordinate} :
  t ∈ (job.booksAfter setup s history environment).registry.keys
    ↔ ∃ o ∈ Visit.outcomes environment history, o.ok = true ∧ o.coordinate = t
  := by
  rw [Table.mem_keys_iff]
  constructor
  · rintro ⟨e, he⟩
    obtain ⟨-, hentered⟩ := entered_after h he
    obtain ⟨here, outcome, coordinate, good⟩ := hentered
    exact ⟨_, Visit.mem_outcomes.mpr ⟨_, List.mem_append_right _ List.mem_cons_self, here,
      outcome⟩, good, coordinate⟩
  · rintro ⟨o, ho, hok, hcoordinate⟩
    obtain ⟨v, hv, henvironment, houtcome⟩ := Visit.mem_outcomes.mp ho
    have hmem : v ∈ job.visits setup s := by
      rw [h]
      apply List.mem_append_left _ hv
    obtain ⟨e, he⟩ := (contained_outcome hmem houtcome).ok_iff.mp hok
    have hat : v.config.coordinate = t :=
      (isOf_outcome hmem houtcome).1.symm.trans hcoordinate
    rw [registry_booksAfter h]
    apply Option.ne_none_iff_exists'.mp
    intro hnone
    have hentity := Visit.latest?_eq_none hnone v hv ⟨henvironment, hat⟩
    rw [Visit.entity?, houtcome, Option.bind_some, he] at hentity
    cases hentity

/-- A reference to the id or the name of a deployed config leads to a text. -/
theorem exists_text_after
    (h : job.visits setup s = history ++ rest) {t : Coordinate} {e : Entity}
    (he : (job.booksAfter setup s history environment).registry.find? t = some e)
    (hskip : e.skip = false) {property : String}
    (hproperty : property = idProperty ∨ property = nameParameter) (vars : Variables)
    (site : Site) :
  ∃ value text, (Parameter.reference ⟨t, property⟩).resolve vars
      (job.booksAfter setup s history environment).registry site = .ok value
    ∧ value.text? = some text
  := by
  obtain ⟨-, hentered⟩ := entered_after h he
  obtain ⟨-, -, -, -, -, henters⟩ := hentered
  obtain ⟨value, text, hvalue, htext⟩ := henters.reads hskip hproperty
  use value, text
  simp only [Parameter.resolve, Parameter.follow, he, hskip, hvalue]
  exact ⟨rfl, htext⟩

/-- After some visits of a run the registry of an environment is told by their outcomes. -/
theorem isTold_after
    (h : job.visits setup s = history ++ rest) (environment : String) :
  ((setup.after (job.start setup s) history).report.environment environment).IsTold setup
    environment history
  := by
  have houtcomes : ((setup.after (job.start setup s) history).report.environment
      environment).outcomes = Visit.outcomes environment history := by
    rw [(setup.environment_after _ _ environment).1, environment_start]
    rfl
  constructor
  · apply houtcomes
  · intro t
    rw [houtcomes]
    apply mem_keys_after h
  · intro t e he
    apply entered_after h he
  · intro t e he hskip property hproperty vars site
    apply exists_text_after h he hskip hproperty
  · intro reference hproperty vars site hresolve
    obtain ⟨e, he, hskip⟩ := Parameter.exists_entry_of_resolve hresolve
    obtain ⟨value, text, hvalue, -⟩ := exists_text_after h he hskip hproperty vars site
    cases hresolve.symm.trans hvalue

/-- At any time of a run, and in its report, the registry of each environment is told by the
outcomes there so far: it has an entry for each coordinate at which a config was deployed or
left out, and the entry is what the latest such config left behind.  So no reference to the
id or the name of a deployed config goes without a value. -/
theorem registry_isTold
    (job : Job) (setup : Setup σ) (s : Session σ) (environment : String) :
  (∀ n, ((setup.after (job.start setup s)
        ((job.visits setup s).take n)).report.environment environment).IsTold setup environment
      ((job.visits setup s).take n))
    ∧ ∀ report s', job.run setup s = .ok (report, s') →
      (report.environment environment).IsTold setup environment (job.visits setup s)
  := by
  constructor
  · intro n
    apply isTold_after (List.take_append_drop n _).symm
  · intro report s' hrun
    obtain ⟨-, henvironments, -⟩ := run_eq_ok hrun
    rw [Report.environment, henvironments]
    apply isTold_after (job.visits setup s).append_nil.symm

end Job

namespace Sample

/-- A dashboard, and one that shows it. -/
def pair : Job :=
  .inOrder [board, overview]

/-- The report of their environment once the first one has been visited. -/
def halfway : EnvironmentReport :=
  (setup.after (pair.start setup session) ((pair.visits setup session).take 1)).report.environment
    "test"

end Sample

/-- Once the first dashboard has been deployed, others can read its id. -/
theorem registry_isTold_halfway :
  Sample.board.coordinate ∈ Sample.halfway.books.registry.keys
    ∧ ∃ value text, (Parameter.reference ⟨Sample.board.coordinate, idProperty⟩).resolve .empty
        Sample.halfway.books.registry (Sample.overview.site "board") = .ok value
      ∧ value.text? = some text
  := by
  have hentry : (Sample.halfway.books.registry.find? Sample.board.coordinate).map Entity.skip
      = some false := by
    decide +kernel
  obtain ⟨e, he, hskip⟩ := Option.map_eq_some_iff.mp hentry
  have htold := (Job.registry_isTold Sample.pair Sample.setup Sample.session "test").1 1
  use Table.mem_keys_iff.mpr ⟨e, he⟩
  apply htold.reads _ e he hskip _ (.inl rfl)

end Rollout
