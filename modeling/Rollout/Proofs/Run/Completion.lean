import Rollout.Proofs.Results
import Rollout.Proofs.Run.Dependencies

/-!
# What a run completes

A visit settles its config if the config is deployed or left out, and every other visit
leaves an error in the report.  A run without errors has settled all configs that it has
come to, and it has come to all of them unless it was cancelled.
-/

namespace Rollout

variable {σ : Type}

/-! ### Outcomes and errors -/

/-- An outcome has no errors exactly if it is a good one. -/
theorem Config.Contained.errors_eq_nil_iff
    {c : Config} {conditions : Conditions} {b : Books} {s : Session σ} {o : Outcome}
    {d : Deployed σ} (h : c.Contained conditions b s o d) :
  o.errors = [] ↔ o.ok = true
  := by
  rw [← not_iff_not, ← ne_eq, ← h.failed_iff_errors, Outcome.ok]
  cases hstate : o.state with
  | pending => exact absurd hstate h.not_pending
  | skipped | failed | deployed => decide

/-- What is wrong in a run is wrong in one of its environments. -/
theorem Report.mem_errors
    {r : Report} {e : DeployError} :
  e ∈ r.errors ↔ ∃ environment, e ∈ (r.environment environment).errors
  := by
  rw [errors, List.mem_flatMap]
  constructor
  · rintro ⟨report, hreport, he⟩
    obtain ⟨⟨environment, report⟩, hentry, rfl⟩ := List.mem_map.mp hreport
    use environment
    rw [Report.environment, Table.find?_eq_some_iff.mpr hentry]
    apply he
  · rintro ⟨environment, he⟩
    cases hfind : r.environments.find? environment with
    | none =>
      rw [Report.environment, hfind] at he
      cases he
    | some report =>
      rw [Report.environment, hfind] at he
      exact ⟨report, List.mem_map_of_mem (Table.find?_eq_some_iff.mp hfind), he⟩

namespace Visit

/-- The config of a visit is settled: it is deployed or left out. -/
def Settles (v : Visit σ) : Prop :=
  ∃ o, v.outcome? = some o ∧ o.ok = true

theorem mem_outcomes
    {environment : String} {visits : List (Visit σ)} {o : Outcome} :
  o ∈ outcomes environment visits
    ↔ ∃ v ∈ visits, v.environment = environment ∧ v.outcome? = some o
  := by
  rw [outcomes, List.mem_filterMap]
  constructor
  · rintro ⟨v, hv, ho⟩
    obtain ⟨hv, henvironment⟩ := List.mem_filter.mp hv
    exact ⟨v, hv, of_decide_eq_true henvironment, ho⟩
  · rintro ⟨v, hv, henvironment, ho⟩
    exact ⟨v, List.mem_filter.mpr ⟨hv, decide_eq_true henvironment⟩, ho⟩

end Visit

/-- A visit at which a run stops does not settle its config. -/
theorem Setup.Stops.not_settles
    {setup : Setup σ} {v : Visit σ} (h : setup.Stops v) :
  ¬ v.Settles
  := by
  rintro ⟨o, ho, hok⟩
  have hstate := h.1
  rw [Visit.state?, ho, Option.map_some, Option.some_inj] at hstate
  rw [Outcome.ok, hstate] at hok
  cases hok

namespace Job

variable {job : Job} {setup : Setup σ} {s s' : Session σ} {report : Report}

/-- A run reports no errors exactly if it met no loops and settled every config that it
visited. -/
theorem errors_eq_nil_iff
    (h : job.run setup s = .ok (report, s')) :
  report.errors = [] ↔ job.cycleErrors = [] ∧ ∀ v ∈ job.visits setup s, v.Settles
  := by
  obtain ⟨hvisits, -⟩ := ending_run h
  constructor
  · intro herrors
    have hnone : ∀ environment e, e ∉ (report.environment environment).errors := by
      intro environment e he
      apply List.eq_nil_iff_forall_not_mem.mp herrors e
      apply Report.mem_errors.mpr ⟨environment, he⟩
    constructor
    · apply List.eq_nil_iff_forall_not_mem.mpr
      intro e he
      apply hnone (e.environment.getD "") e
      rw [(environment_run h _).2]
      apply List.mem_append_left
      apply List.mem_filter.mpr ⟨he, decide_eq_true rfl⟩
    · intro v hv
      obtain ⟨o, ho⟩ := hvisits v hv
      use o, ho
      apply (contained_outcome hv ho).errors_eq_nil_iff.mp
      apply List.eq_nil_iff_forall_not_mem.mpr
      intro e he
      apply hnone v.environment e
      obtain ⟨houtcomes, herrors⟩ := environment_run h v.environment
      rw [herrors, houtcomes]
      apply List.mem_append_right
      apply List.mem_flatMap.mpr ⟨o, Visit.mem_outcomes.mpr ⟨v, hv, rfl, ho⟩, he⟩
  · rintro ⟨hcycles, hsettled⟩
    apply List.eq_nil_iff_forall_not_mem.mpr
    intro e he
    obtain ⟨environment, he⟩ := Report.mem_errors.mp he
    obtain ⟨houtcomes, herrors⟩ := environment_run h environment
    rw [herrors, houtcomes, hcycles, List.filter_nil, List.nil_append] at he
    obtain ⟨o, ho, he⟩ := List.mem_flatMap.mp he
    obtain ⟨v, hv, -, ho⟩ := Visit.mem_outcomes.mp ho
    obtain ⟨o', ho', hok⟩ := hsettled v hv
    rw [ho, Option.some_inj] at ho'
    subst ho'
    rw [(contained_outcome hv ho).errors_eq_nil_iff.mpr hok] at he
    cases he

/-- A run that settles every config that it visits visits all of them, unless it is found
cancelled in front of the next one. -/
theorem items_eq_of_settles
    (h : job.run setup s = .ok (report, s')) (hsettled : ∀ v ∈ job.visits setup s, v.Settles) :
  (report.cancelled = false ∧ job.items = (job.visits setup s).map Visit.item)
    ∨ report.cancelled = true ∧ setup.cancelled (job.visits setup s).length = true
      ∧ ∃ item rest, job.items = (job.visits setup s).map Visit.item ++ item :: rest
  := by
  obtain ⟨-, p, hend, rfl, -⟩ := ending_run h
  cases hend with
  | complete items_eq =>
    left
    use ((setup.flags_after _ _).1).trans (job.flags_start setup s).1
  | cancelled items_eq _ hcancelled =>
    right
    use rfl
    constructor
    · simpa [start, Progress.start] using hcancelled
    · exact ⟨_, _, items_eq⟩
  | stopped visits_eq _ _ stops =>
    rw [visits_eq] at hsettled
    exact absurd (hsettled _ (by simp)) stops.not_settles

end Job

/-! ### The errors of a run -/

/-- A run whose list of errors is empty has deployed or left out every config that it has
come to, and it has come to all of them, save for those behind the point where it was found
cancelled. -/
theorem Setup.settles_iff_runErrors
    {setup : Setup σ} {configs : List Config} {s s' : Session σ} {errors : List DeployError}
    (h : setup.runErrors configs s = .ok (errors, s')) :
  (errors = [] ↔ ∀ v ∈ (Job.inOrder configs).visits setup s, v.Settles)
    ∧ (errors = [] → ∃ rest,
        configs = ((Job.inOrder configs).visits setup s).map Visit.config ++ rest
          ∧ (rest = []
            ∨ setup.cancelled ((Job.inOrder configs).visits setup s).length = true))
  := by
  rw [runErrors] at h
  cases hrun : setup.run configs s with
  | error fault =>
    rw [hrun] at h
    cases h
  | ok result =>
    obtain ⟨report, s''⟩ := result
    rw [hrun] at h
    cases h
    have hjob : (Job.inOrder configs).run setup s = .ok (report, s') := hrun
    have hiff := Job.errors_eq_nil_iff hjob
    have hcycles : (Job.inOrder configs).cycleErrors = [] := rfl
    rw [hcycles, eq_self, true_and] at hiff
    use hiff
    intro herrors
    have hitems : configs = (Job.inOrder configs).items.map Prod.snd := by
      simp [Job.items, Function.comp_def]
    rcases Job.items_eq_of_settles hjob (hiff.mp herrors)
      with ⟨-, hall⟩ | ⟨-, hcancelled, item, rest, hsome⟩
    · use []
      rw [hall] at hitems
      simpa [Function.comp_def, Visit.item] using hitems
    · use item.2 :: rest.map Prod.snd
      rw [hsome] at hitems
      constructor
      · simpa [Function.comp_def, Visit.item] using hitems
      · exact .inr hcancelled

/-- The list of errors is empty for a run that both dashboards are deployed by. -/
theorem settles_iff_runErrors_overview :
  ∃ s', Sample.setup.runErrors [Sample.board, Sample.overview] Sample.session = .ok ([], s')
    ∧ ∀ v ∈ (Job.inOrder [Sample.board, Sample.overview]).visits Sample.setup Sample.session,
      v.Settles
  := by
  have herrors : (Sample.setup.runErrors [Sample.board, Sample.overview]
      Sample.session).toOption.map (fun result => result.1.length) = some 0 := by decide +kernel
  obtain ⟨⟨errors, s'⟩, h, hlength⟩ := exists_eq_ok herrors
  obtain rfl := List.length_eq_zero_iff.mp hlength
  exact ⟨s', h, (Setup.settles_iff_runErrors h).1.mp rfl⟩

namespace Sample

/-- A run that is found cancelled from the beginning. -/
def cancelledSetup : Setup Recording :=
  { setup with cancelled := fun _ => true }

end Sample

/-- The list of errors is also empty for a run that is cancelled in front of its only
config, which is neither deployed nor left out. -/
theorem runErrors_cancelled_board :
  (∃ s', Sample.cancelledSetup.runErrors [Sample.board] Sample.session = .ok ([], s'))
    ∧ ¬ ∃ v ∈ (Job.inOrder [Sample.board]).visits Sample.cancelledSetup Sample.session,
      v.config.coordinate = Sample.board.coordinate ∧ v.Settles
  := by
  have hvisits : (Job.inOrder [Sample.board]).visits Sample.cancelledSetup Sample.session = [] :=
    rfl
  constructor
  · exact ⟨_, rfl⟩
  · rw [hvisits]
    simp

end Rollout
