import Rollout.Proofs.Deploy.Names
import Rollout.Proofs.Run.Calls
import Rollout.Proofs.Run.Completion

/-!
# Names in the course of a run

In an environment every name of an API with unique names is put to use at most once.  The
names that are taken are at any moment those of the configs that have been deployed until
then, whatever else has failed, and a duplicate is reported only for a name among them.
-/

namespace Rollout

variable {σ : Type}

/-- A client has put an object under a name in an API. -/
def Call.puts (api name : String) : Call → Bool
  | ⟨.byName found name' _, .ok _⟩ => found.id = api && name' = name
  | _ => false

/-- A request by name is made for a plan that has this name and takes this way. -/
theorem Plan.route_of_request
    {plan : Plan} {c : Coordinate} {found : Api} {name payload : String}
    (h : plan.request c = .ok (.byName found name payload)) :
  plan.route = .byName found ∧ plan.name = some name
  := by
  rw [request.eq_def] at h
  dsimp only at h
  split at h
  · split at h
    · cases h
    · split at h
      · cases h
      · cases h
  · rename_i hroute
    split at h
    · cases h
    · rename_i hname
      cases h
      exact ⟨hroute, hname⟩
  · split at h
    · cases h
    · cases h
  · cases h
  · cases h

/-- A config for which a client puts an object under a name takes this name. -/
theorem Config.Passes.takes_of_puts
    {c : Config} {conditions : Conditions} {registry : Registry} {names : NameIndex}
    {plan : Plan} (h : c.Passes conditions registry names plan) {request : Request}
    (hrequest : plan.request c.coordinate = .ok request) {answer : Except String RemoteEntity}
    {api name : String} (hputs : Call.puts api name ⟨request, answer⟩ = true) :
  c.Takes conditions registry api name
  := by
  rw [Call.puts.eq_def] at hputs
  split at hputs
  · rename_i found name' payload remote hcall
    cases hcall
    simp only [Bool.and_eq_true, decide_eq_true_eq] at hputs
    obtain ⟨rfl, rfl⟩ := hputs
    obtain ⟨hroute, hname⟩ := Plan.route_of_request hrequest
    apply h.takes_iff.mpr
    exact ⟨found, hroute, rfl, hname⟩
  · cases hputs

/-! ### One visit -/

namespace Visit

variable {setup : Setup σ} {v : Visit σ} {environment api name : String}

/-- The config of a visit goes by a name in an API with unique names. -/
def Takes (setup : Setup σ) (api name : String) (v : Visit σ) : Prop :=
  v.config.Takes setup.conditions v.books.registry api name

/-- A config with a name in an API has been deployed to an environment. -/
def HasTaken (setup : Setup σ) (environment api name : String) (v : Visit σ) : Prop :=
  v.environment = environment ∧ v.state? = some .deployed ∧ v.Takes setup api name

/-- How often a client has put an object under a name in an environment. -/
def puts (setup : Setup σ) (environment api name : String) (visits : List (Visit σ)) : Nat :=
  (callsIn setup environment visits).countP (Call.puts api name)

theorem puts_concat
    (setup : Setup σ) (environment api name : String) (history : List (Visit σ)) (v : Visit σ) :
  puts setup environment api name (history ++ [v])
    = puts setup environment api name history
      + if v.environment = environment then (v.calls setup).countP (Call.puts api name) else 0
  := by
  rw [puts, callsIn, List.filter_append, List.flatMap_append, List.countP_append, ← callsIn,
    ← puts]
  by_cases henvironment : v.environment = environment
  · simp [henvironment]
  · simp [henvironment]

/-- A visit with an outcome adds the name of its config to those that are taken if the config
is deployed, and nothing else. -/
theorem has_names
    (hv : v.deployed = setup.deploy v.environment v.config v.books v.session) {o : Outcome}
    (ho : v.outcome? = some o) (api name : String) :
  v.deployed.books.names.has api name = true
    ↔ v.books.names.has api name = true
      ∨ v.state? = some .deployed ∧ v.Takes setup api name
  := by
  rw [state?, ho, Option.map_some, Option.some_inj]
  rw [outcome?_eq_some_iff] at ho
  rw [hv] at ho ⊢
  rcases setup.course_visit v.environment v.config v.books v.session
    with ⟨mode, hcourse⟩ | hunserved
  · apply hcourse.has_names ho
  · rw [hunserved] at ho ⊢
    cases ho
    simp [Config.unserved]

/-- On a visit at most one object is put under a name, and only if the name is free and is the
one that the config takes with it. -/
theorem countP_calls
    (hv : v.deployed = setup.deploy v.environment v.config v.books v.session)
    (api name : String) :
  (v.calls setup).countP (Call.puts api name) = 0
    ∨ (v.calls setup).countP (Call.puts api name) = 1
      ∧ v.books.names.has api name = false ∧ v.deployed.books.names.has api name = true
  := by
  have hcalling := calling hv
  generalize v.calls setup = calls at hcalling ⊢
  cases hcalling with
  | silent => exact .inl rfl
  | refused passes request_eq result =>
    left
    rw [List.countP_singleton, Call.puts]
    · rfl
    · simp
  | answered passes request_eq books =>
    rename_i plan request remote
    by_cases hputs : Call.puts api name ⟨request, .ok remote⟩ = true
    · right
      have htakes := passes.takes_of_puts request_eq hputs
      constructor
      · simp [hputs]
      · use passes.has_eq_false htakes
        rw [books, passes.has_addDeployed]
        exact .inr htakes
    · left
      simp [hputs]

/-- A visit that reports a duplicate finds its name taken. -/
theorem taken
    (hv : v.deployed = setup.deploy v.environment v.config v.books v.session) {o : Outcome}
    (ho : v.outcome? = some o) {e : DeployError} (he : e ∈ o.errors)
    (hkind : e.kind = .duplicateName) (hraises : ¬ v.config.Raises .duplicateName) :
  ∃ api name, v.Takes setup api name ∧ v.books.names.has api name = true
  := by
  rw [outcome?_eq_some_iff, hv] at ho
  rcases setup.course_visit v.environment v.config v.books v.session
    with ⟨mode, hcourse⟩ | hunserved
  · apply hcourse.taken ho he hkind hraises
  · rw [hunserved] at ho
    cases ho
    obtain rfl := List.mem_singleton.mp he
    cases hkind

end Visit

/-! ### All visits so far -/

namespace Job

variable {job : Job} {setup : Setup σ} {s : Session σ} {history rest : List (Visit σ)}

/-- The names that are taken in an environment after some visits are those of the configs that
these have deployed there. -/
theorem has_booksAfter
    (h : job.visits setup s = history ++ rest) (environment api name : String) :
  (job.booksAfter setup s history environment).names.has api name = true
    ↔ ∃ u ∈ history, u.HasTaken setup environment api name
  := by
  induction history using List.reverseRecOn generalizing rest with
  | nil =>
    rw [booksAfter_nil]
    simp [Books.empty, NameIndex.has, NameIndex.names]
  | append_singleton history v ih =>
    rw [List.append_assoc, List.singleton_append] at h
    simp only [List.mem_append, List.mem_singleton, or_and_right, exists_or, exists_eq_left]
    rw [booksAfter_concat, ← ih h]
    split
    · rename_i hthere
      obtain ⟨rfl, hsome⟩ := hthere
      obtain ⟨o, ho⟩ := Option.isSome_iff_exists.mp hsome
      rw [Visit.has_names (deployed_visit (mem_visits h)) ho, books_visit h]
      simp [Visit.HasTaken]
    · rename_i hthere
      have hnot : ¬ v.HasTaken setup environment api name := by
        rintro ⟨henvironment, hstate, -⟩
        obtain ⟨o, ho, -⟩ := Option.map_eq_some_iff.mp hstate
        exact hthere ⟨henvironment, by rw [ho, Option.isSome_some]⟩
      simp [hnot]

/-- After some visits at most one object has been put under a name in an environment, and the
name is taken then unless the run has ended there. -/
theorem puts_le_one
    (h : job.visits setup s = history ++ rest) (environment api name : String) :
  Visit.puts setup environment api name history ≤ 1
    ∧ ((∀ u ∈ history, ∃ o, u.outcome? = some o) →
        Visit.puts setup environment api name history = 1 →
          (job.booksAfter setup s history environment).names.has api name = true)
  := by
  induction history using List.reverseRecOn generalizing rest with
  | nil => exact ⟨Nat.zero_le 1, fun _ hone => absurd hone Nat.zero_ne_one⟩
  | append_singleton history v ih =>
    have hsplit := h
    rw [List.append_assoc, List.singleton_append] at hsplit
    obtain ⟨hle, htaken⟩ := ih hsplit
    obtain ⟨-, hhistory, -⟩ := Setup.visits_split hsplit
    have hkept : (job.booksAfter setup s history environment).names.has api name = true →
        (job.booksAfter setup s (history ++ [v]) environment).names.has api name = true := by
      intro hhas
      obtain ⟨u, hu, htook⟩ := (has_booksAfter hsplit environment api name).mp hhas
      exact (has_booksAfter h environment api name).mpr ⟨u, List.mem_append_left _ hu, htook⟩
    rw [Visit.puts_concat]
    split
    · rename_i henvironment
      subst henvironment
      rcases Visit.countP_calls (deployed_visit (mem_visits hsplit)) api name
        with hzero | ⟨hone, hfree, hnow⟩
      · rw [hzero]
        exact ⟨hle, fun _ hone => hkept (htaken hhistory hone)⟩
      · -- The name was free in front of the visit, so it had not been put to use before.
        have hnever : Visit.puts setup v.environment api name history = 0 := by
          rw [books_visit hsplit] at hfree
          rcases Nat.le_one_iff_eq_zero_or_eq_one.mp hle with hzero | hone
          · apply hzero
          · rw [htaken hhistory hone] at hfree
            cases hfree
        rw [hnever, hone]
        use Nat.le_refl 1
        intro hall _
        obtain ⟨o, ho⟩ := hall v (by simp)
        rw [booksAfter_concat, if_pos ⟨rfl, by rw [ho, Option.isSome_some]⟩]
        apply hnow
    · exact ⟨hle, fun _ hone => hkept (htaken hhistory hone)⟩

/-- Names are unique in every run.  In an environment at most one call puts an object under a
name of an API; at any moment the names that are taken are those of the configs that have
been deployed there; and a config is reported as a duplicate only if another one has been
deployed there before it with the name that it goes by, unless a parameter of its own comes
up with such a report.  The books are those that a config meets, and those of the report. -/
theorem names_unique
    (job : Job) (setup : Setup σ) (s : Session σ) (environment : String) :
  (∀ api name, Visit.puts setup environment api name (job.visits setup s) ≤ 1)
    ∧ (∀ history rest, job.visits setup s = history ++ rest → ∀ api name,
        (job.booksAfter setup s history environment).names.has api name = true
          ↔ ∃ u ∈ history, u.HasTaken setup environment api name)
    ∧ (∀ before v after, job.visits setup s = before ++ v :: after →
        v.environment = environment →
          v.books = job.booksAfter setup s before environment
            ∧ ∀ o, v.outcome? = some o → ∀ e ∈ o.errors, e.kind = .duplicateName →
              ¬ v.config.Raises .duplicateName →
                ∃ api name, v.Takes setup api name
                  ∧ ∃ u ∈ before, u.HasTaken setup environment api name)
    ∧ ∀ report s', job.run setup s = .ok (report, s') →
        (report.environment environment).books
            = job.booksAfter setup s (job.visits setup s) environment
          ∧ (report.environment environment).outcomes
            = Visit.outcomes environment (job.visits setup s)
  := by
  have hall : job.visits setup s = job.visits setup s ++ [] := (List.append_nil _).symm
  constructor
  · intro api name
    apply (puts_le_one hall environment api name).1
  constructor
  · intro history rest h api name
    apply has_booksAfter h
  constructor
  · rintro before v after h rfl
    use books_visit h
    intro o ho e he hkind hraises
    obtain ⟨api, name, htakes, htaken⟩ :=
      Visit.taken (deployed_visit (mem_visits h)) ho he hkind hraises
    rw [books_visit h] at htaken
    exact ⟨api, name, htakes, (has_booksAfter h v.environment api name).mp htaken⟩
  · intro report s' h
    use books_run h environment
    apply (environment_run h environment).1

end Job

namespace Sample

/-- Another dashboard with the name of the first one. -/
def namesake : Config :=
  { board with coordinate := ⟨"shop", "dashboard", "namesake"⟩ }

end Sample

/-- Of two dashboards with one name the second is a duplicate of the first. -/
theorem names_unique_namesake :
  ∃ v u, (Job.inOrder [Sample.board, Sample.namesake]).visits Sample.setup Sample.session = [v, u]
    ∧ u.state? = some .failed
    ∧ (∃ api name, u.Takes Sample.setup api name ∧ v.HasTaken Sample.setup "test" api name)
    ∧ Visit.puts Sample.setup "test" "dashboard" "Board" [v, u] ≤ 1
  := by
  have hvisits : ((Job.inOrder [Sample.board, Sample.namesake]).visits Sample.setup
      Sample.session).map (fun v => (v.environment, v.state?,
        v.outcome?.map (fun o => o.errors.map DeployError.kind)))
      = [("test", some .deployed, some []), ("test", some .failed, some [.duplicateName])] := by
    decide +kernel
  have hregular : Sample.namesake.IsRegular := by
    constructor
    · decide
    · intro p hp
      cases hp
  obtain ⟨v, u, hsplit, -, hu⟩ := Visit.pair_of_map hvisits
  obtain ⟨henvironment, hstate, hkinds⟩ := by simpa using hu
  obtain ⟨o, ho, e, herrors, hkind⟩ := hkinds
  have hconfig : u.config = Sample.namesake := by
    obtain ⟨rest, hconfigs⟩ := Job.configs_of_visits hsplit
    obtain ⟨-, hnamesake, -⟩ := by simpa [Job.items] using hconfigs
    exact hnamesake.symm
  obtain ⟨huses, -, hduplicate, -⟩ := Job.names_unique
    (.inOrder [Sample.board, Sample.namesake]) Sample.setup Sample.session "test"
  obtain ⟨-, hduplicate⟩ := hduplicate [v] u [] hsplit henvironment
  obtain ⟨api, name, htakes, w, hw, htaken⟩ := hduplicate o ho e (by simp [herrors]) hkind
    (hconfig ▸ hregular.not_raises _)
  obtain rfl := List.mem_singleton.mp hw
  use w, u, hsplit, hstate, ⟨api, name, htakes, htaken⟩
  rw [← hsplit]
  apply huses

end Rollout
