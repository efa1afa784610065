import Rollout.Proofs.Run.Visits

/-!
# Jobs

A run is given configs in order, or those of several environments, or configs that are
yet to be sorted.  In each case it is one sweep over a list of configs that begins with a
report of its own, in which no environment has books.
-/

namespace Rollout

variable {σ : Type}

/-- What a run is given. -/
inductive Job where
  /-- Configs in order, each with its own environment. -/
  | inOrder (configs : List Config)
  /-- The configs of several environments, each list in order. -/
  | perEnvironment (configs : Table String (List Config))
  /-- Configs that are yet to be sorted. -/
  | unsorted (configs : List Config)

namespace Job

def run (job : Job) (setup : Setup σ) (s : Session σ) : Except Fault (Report × Session σ) :=
  match job with
  | .inOrder configs => setup.run configs s
  | .perEnvironment configs => setup.runEnvironments configs s
  | .unsorted configs => setup.runAll configs s

/-- The configs as they come up, with their environments. -/
def items : Job → List (String × Config)
  | .inOrder configs => configs.map (fun c => (c.environment, c))
  | .perEnvironment configs => Setup.itemsOf configs
  | .unsorted configs => Setup.itemsOf (SortedEnvironments.ofConfigs configs).configs

/-- The loops that are known before anything is deployed. -/
def cycleErrors : Job → List DeployError
  | .unsorted configs => (SortedEnvironments.ofConfigs configs).errors
  | _ => []

/-- The lines that are logged before anything is deployed. -/
def openingLines (job : Job) (setup : Setup σ) : Log :=
  match job with
  | .inOrder _ => []
  | .perEnvironment configs => Setup.environmentLines configs.keys
  | .unsorted configs =>
    let sorted := SortedEnvironments.ofConfigs configs
    setup.sortingLines configs sorted.errors ++ Setup.environmentLines sorted.configs.keys

/-- The progress in front of the first config. -/
def start (job : Job) (setup : Setup σ) (s : Session σ) : Progress σ :=
  .start (Setup.cycleReport (.fresh setup.options.dryRun) job.cycleErrors)
    (s.tell (job.openingLines setup))

def visits (job : Job) (setup : Setup σ) (s : Session σ) : List (Visit σ) :=
  setup.visits job.items (job.start setup s)

theorem run_eq
    (job : Job) (setup : Setup σ) (s : Session σ) :
  job.run setup s
    = setup.runItems job.items (job.start setup s).report (job.start setup s).session
  := by
  cases job with
  | inOrder configs => simp [run, Setup.run, items, start, Progress.start, openingLines,
      cycleErrors, Setup.cycleReport, Session.tell]
  | perEnvironment configs => rfl
  | unsorted configs =>
    simp [run, Setup.runAll, Setup.runEnvironmentsFrom, items, start, Progress.start,
      openingLines, cycleErrors, Session.tell]

/-- A run that gets through its configs is finished from there. -/
theorem run_of_process
    {job : Job} {setup : Setup σ} {s : Session σ} {p : Progress σ}
    (h : setup.process job.items (job.start setup s) = .ok p) :
  job.run setup s = setup.finish p
  := by
  have hprocess : setup.process job.items
      (.start (job.start setup s).report (job.start setup s).session) = .ok p := h
  rw [run_eq, Setup.runItems, hprocess]

/-- A run ends with the fault that ends the sweep over its configs. -/
theorem run_of_fault
    {job : Job} {setup : Setup σ} {s : Session σ} {fault : Fault}
    (h : setup.process job.items (job.start setup s) = .error fault) :
  job.run setup s = .error fault
  := by
  have hprocess : setup.process job.items
      (.start (job.start setup s).report (job.start setup s).session) = .error fault := h
  rw [run_eq, Setup.runItems, hprocess]

end Job

/-! ### The first report -/

/-- The loops are entered into the reports of their environments. -/
theorem Setup.environment_cycleReport
    (r : Report) (errors : List DeployError) (environment : String) :
  (cycleReport r errors).environment environment
    = (r.environment environment).addErrors
        (errors.filter (fun e => e.environment.getD "" = environment))
  := by
  induction errors generalizing r with
  | nil => simp [cycleReport, EnvironmentReport.addErrors]
  | cons e errors ih =>
    have hcons : cycleReport r (e :: errors)
        = cycleReport (r.set (e.environment.getD "")
            ((r.environment (e.environment.getD "")).addErrors [e])) errors := rfl
    rw [hcons, ih, Report.environment_set]
    split
    · rename_i h
      simp [h, EnvironmentReport.addErrors]
    · rename_i h
      simp [h]

theorem Setup.flags_cycleReport
    (r : Report) (errors : List DeployError) :
  (cycleReport r errors).cancelled = r.cancelled ∧ (cycleReport r errors).aborted = r.aborted
  := by
  induction errors generalizing r with
  | nil => exact ⟨rfl, rfl⟩
  | cons e errors ih => apply ih

/-- To write the stubs out changes neither the clients nor the recorder. -/
theorem Setup.writeStubs_eq_ok
    {setup : Setup σ} {s s' : Session σ} (h : setup.writeStubs s = .ok s') :
  s'.client = s.client ∧ s'.recorder = s.recorder
  := by
  rw [writeStubs] at h
  split at h
  · cases h
    exact ⟨rfl, rfl⟩
  · rename_i r hr
    dsimp only at h
    split at h
    · cases h
      exact ⟨rfl, rfl⟩
    · split at h
      · cases h
      · cases h
        exact ⟨rfl, rfl⟩

/-- The end of a run changes neither the report nor the clients. -/
theorem Setup.finish_eq_ok
    {setup : Setup σ} {p : Progress σ} {report : Report} {s : Session σ}
    (h : setup.finish p = .ok (report, s)) :
  report = p.report ∧ s.client = p.session.client
  := by
  rw [finish] at h
  split at h
  · cases h
  · rename_i s' hstubs
    cases h
    use rfl
    rw [(writeStubs_eq_ok hstubs).1]
    rfl

namespace Job

/-- A run begins with no outcomes, and with empty books. -/
theorem environment_start
    (job : Job) (setup : Setup σ) (s : Session σ) (environment : String) :
  (job.start setup s).report.environment environment
    = (EnvironmentReport.empty environment).addErrors
        (job.cycleErrors.filter (fun e => e.environment.getD "" = environment))
  := Setup.environment_cycleReport _ _ environment

theorem flags_start
    (job : Job) (setup : Setup σ) (s : Session σ) :
  (job.start setup s).report.cancelled = false ∧ (job.start setup s).report.aborted = false
  := Setup.flags_cycleReport _ _

/-- The books of an environment once some visits of a run are over. -/
def booksAfter (job : Job) (setup : Setup σ) (s : Session σ) (history : List (Visit σ))
    (environment : String) : Books :=
  ((setup.after (job.start setup s) history).report.environment environment).books

theorem booksAfter_nil
    (job : Job) (setup : Setup σ) (s : Session σ) (environment : String) :
  job.booksAfter setup s [] environment = .empty
  := congrArg EnvironmentReport.books (job.environment_start setup s environment)

/-- A visit with an outcome leaves its books behind in its environment. -/
theorem booksAfter_concat
    (job : Job) (setup : Setup σ) (s : Session σ) (history : List (Visit σ)) (v : Visit σ)
    (environment : String) :
  job.booksAfter setup s (history ++ [v]) environment
    = if v.environment = environment ∧ v.outcome?.isSome then v.deployed.books
      else job.booksAfter setup s history environment
  := by
  rw [booksAfter, Setup.after_concat, booksAfter]
  cases ho : v.outcome? with
  | none => simp [Progress.follow, ho]
  | some o =>
    rw [Progress.environment_follow _ _ ho]
    simp only [Option.isSome_some, and_true]
    split
    · rfl
    · rfl

/-- A visit of a run meets the books that the visits before it have left in its environment. -/
theorem books_visit
    {job : Job} {setup : Setup σ} {s : Session σ} {before after : List (Visit σ)} {v : Visit σ}
    (h : job.visits setup s = before ++ v :: after) :
  v.books = job.booksAfter setup s before v.environment
  := by
  obtain ⟨hv, -⟩ := Setup.visits_split h
  rw [hv, Setup.books_visit]
  rfl

/-- A run ends after its visits, each of which has an outcome. -/
theorem ending_run
    {job : Job} {setup : Setup σ} {s s' : Session σ} {report : Report}
    (h : job.run setup s = .ok (report, s')) :
  (∀ v ∈ job.visits setup s, ∃ o, v.outcome? = some o)
    ∧ ∃ p, setup.Ending job.items (job.start setup s) (job.visits setup s) p
      ∧ report = p.report ∧ s'.client = p.session.client
  := by
  rw [run_eq, Setup.runItems] at h
  split at h
  · cases h
  · rename_i p hp
    use Setup.process_isOk_iff.mp ⟨p, hp⟩, p, Setup.ending_of_process hp
    apply Setup.finish_eq_ok h

/-- A run ends with its visits, each of which has an outcome. -/
theorem run_eq_ok
    {job : Job} {setup : Setup σ} {s s' : Session σ} {report : Report}
    (h : job.run setup s = .ok (report, s')) :
  (∀ v ∈ job.visits setup s, ∃ o, v.outcome? = some o)
    ∧ report.environments
      = (setup.after (job.start setup s) (job.visits setup s)).report.environments
    ∧ s'.client = (setup.after (job.start setup s) (job.visits setup s)).session.client
  := by
  obtain ⟨houtcomes, p, hend, rfl, hclient⟩ := ending_run h
  rw [hclient]
  use houtcomes
  cases hend with
  | complete | cancelled | stopped => exact ⟨rfl, rfl⟩

/-- The report of a run tells of the outcomes of its visits in each environment, and of
their errors after the loops. -/
theorem environment_run
    {job : Job} {setup : Setup σ} {s s' : Session σ} {report : Report}
    (h : job.run setup s = .ok (report, s')) (environment : String) :
  (report.environment environment).outcomes = Visit.outcomes environment (job.visits setup s)
    ∧ (report.environment environment).errors
      = job.cycleErrors.filter (fun e => e.environment.getD "" = environment)
        ++ (report.environment environment).outcomes.flatMap Outcome.errors
  := by
  obtain ⟨-, henvironments, -⟩ := run_eq_ok h
  obtain ⟨houtcomes, herrors⟩ :=
    setup.environment_after (job.start setup s) (job.visits setup s) environment
  rw [environment_start] at houtcomes herrors
  rw [Report.environment, henvironments, ← Report.environment, houtcomes, herrors]
  exact ⟨rfl, rfl⟩

/-- The report of a run holds the books after all its visits. -/
theorem books_run
    {job : Job} {setup : Setup σ} {s s' : Session σ} {report : Report}
    (h : job.run setup s = .ok (report, s')) (environment : String) :
  (report.environment environment).books
    = job.booksAfter setup s (job.visits setup s) environment
  := by
  obtain ⟨-, henvironments, -⟩ := run_eq_ok h
  rw [Report.environment, henvironments]
  rfl

/-- The state of the clients at the end of a run is what its visits made of it. -/
theorem client_run
    {job : Job} {setup : Setup σ} {s s' : Session σ} {report : Report}
    (h : job.run setup s = .ok (report, s')) :
  s'.client = Visit.clientAfter s.client (job.visits setup s)
  := by
  obtain ⟨houtcomes, -, hclient⟩ := run_eq_ok h
  rw [hclient]
  apply setup.client_after _ houtcomes

/-- The first configs of a job are the ones that are visited. -/
theorem configs_of_visits
    {job : Job} {setup : Setup σ} {s : Session σ} {visits : List (Visit σ)}
    (h : job.visits setup s = visits) :
  ∃ rest, job.items.map Prod.snd = visits.map Visit.config ++ rest
  := by
  rw [← List.append_nil visits] at h
  obtain ⟨rest, hitems, -⟩ := Setup.visits_append h
  use rest.map Prod.snd
  rw [hitems, List.map_append, List.map_map]
  rfl

/-- A visit meets the clients as the visits before it left them. -/
theorem client_visit
    {job : Job} {setup : Setup σ} {s : Session σ} {before after : List (Visit σ)} {v : Visit σ}
    (h : job.visits setup s = before ++ v :: after) :
  v.session.client = Visit.clientAfter s.client before
  := by
  obtain ⟨hv, hbefore, -⟩ := Setup.visits_split h
  rw [hv]
  apply setup.client_after _ hbefore

end Job

end Rollout
