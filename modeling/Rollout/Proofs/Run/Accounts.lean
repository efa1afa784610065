import Mathlib.Data.List.Forall2
import Rollout.Proofs.Run.Completion
import Rollout.Proofs.Run.Sorting

/-!
# The verdict on a run

A run is judged by its errors and by whether it was cancelled.  This verdict is right: it
is good exactly if every config that the run was given has an outcome of its own, and a
good one.
-/

namespace Rollout

variable {σ : Type}

/-! ### Whose outcome it is -/

/-- An outcome is that of a config in an environment. -/
def Outcome.IsOf (o : Outcome) (item : String × Config) : Prop :=
  o.coordinate = item.2.coordinate ∧ o.environment = item.1

theorem Config.Course.isOf
    {c : Config} {conditions : Conditions} {mode : Mode σ} {environment : String} {b : Books}
    {s : Session σ} {d : Deployed σ} {o : Outcome}
    (hcourse : c.Course conditions mode environment b s d) (h : d.result = .ok o) :
  o.IsOf (environment, c)
  := by
  cases hcourse with
  | fault | unwritten => cases h
  | skipped | failed | refused | deployed =>
    cases h
    exact ⟨rfl, rfl⟩

theorem Setup.isOf_deploy
    {setup : Setup σ} {environment : String} {c : Config} {b : Books} {s : Session σ}
    {o : Outcome} (h : (setup.deploy environment c b s).result = .ok o) :
  o.IsOf (environment, c)
  := by
  rcases setup.course_visit environment c b s with ⟨mode, hcourse⟩ | hunserved
  · apply hcourse.isOf h
  · rw [hunserved] at h
    cases h
    exact ⟨rfl, rfl⟩

/-! ### The outcomes of an environment -/

namespace Visit

theorem forall₂_filterMap_outcome?
    {R : String × Config → Outcome → Prop} {visits : List (Visit σ)}
    (h : ∀ v ∈ visits, ∃ o, v.outcome? = some o ∧ R v.item o) :
  List.Forall₂ R (visits.map item) (visits.filterMap outcome?)
  := by
  induction visits with
  | nil => exact .nil
  | cons v visits ih =>
    obtain ⟨⟨o, ho, hR⟩, hrest⟩ := List.forall_mem_cons.mp h
    rw [List.map_cons, List.filterMap_cons_some ho]
    exact .cons hR (ih hrest)

/-- Visits that all have an outcome that fits their configs lead to such outcomes in each
environment, one for each. -/
theorem forall₂_outcomes
    {R : String × Config → Outcome → Prop} {visits : List (Visit σ)}
    (h : ∀ v ∈ visits, ∃ o, v.outcome? = some o ∧ R v.item o) (environment : String) :
  List.Forall₂ R ((visits.map item).filter (fun item => item.1 = environment))
    (outcomes environment visits)
  := by
  rw [List.filter_map, outcomes]
  apply forall₂_filterMap_outcome?
  intro v hv
  apply h v (List.mem_filter.mp hv).1

end Visit

/-- Outcomes of which none is pending are deployed, left out or failed. -/
theorem EnvironmentReport.count_add
    {r : EnvironmentReport} (h : ∀ o ∈ r.outcomes, o.state ≠ .pending) :
  r.count .deployed + r.count .skipped + r.count .failed = r.outcomes.length
  := by
  simp only [count]
  generalize r.outcomes = outcomes at h ⊢
  induction outcomes with
  | nil => rfl
  | cons o outcomes ih =>
    obtain ⟨ho, hrest⟩ := List.forall_mem_cons.mp h
    have hrest := ih hrest
    simp only [List.countP_cons, List.length_cons]
    cases hstate : o.state with
    | pending => exact absurd hstate ho
    | skipped | failed | deployed =>
      simp
      omega

/-! ### What a run was given -/

namespace Job

/-- The configs that a run is given, with their environments. -/
def given : Job → List (String × Config)
  | .inOrder configs => configs.map (fun c => (c.environment, c))
  | .perEnvironment configs => Setup.itemsOf configs
  | .unsorted configs => configs.map (fun c => (c.environment, c))

/-- The given configs of an environment all come up and no loop is known there, or none of
them comes up and a loop is known. -/
theorem items_cases
    (job : Job) (environment : String) :
  ((job.items.filter (fun item => item.1 = environment)).Perm
        (job.given.filter (fun item => item.1 = environment))
      ∧ job.cycleErrors.filter (fun e => e.environment.getD "" = environment) = [])
    ∨ job.given.filter (fun item => item.1 = environment) ≠ []
      ∧ job.items.filter (fun item => item.1 = environment) = []
      ∧ job.cycleErrors.filter (fun e => e.environment.getD "" = environment) ≠ []
  := by
  cases job with
  | inOrder | perEnvironment => exact .inl ⟨.rfl, rfl⟩
  | unsorted configs =>
    have hgiven : (given (.unsorted configs)).filter (fun item => item.1 = environment)
        = (configs.filter (fun c => c.environment = environment)).map
          (fun c => (environment, c)) := by
      rw [given, List.filter_map]
      apply List.map_congr_left
      intro c hc
      rw [← of_decide_eq_true (List.mem_filter.mp hc).2]
    rw [hgiven, items, Setup.filter_itemsOf, cycleErrors]
    rcases SortedEnvironments.find?_configs_cases configs environment
      with ⟨hperm, herrors⟩ | ⟨hne, hnone, herrors⟩
    · exact .inl ⟨hperm.map _, herrors⟩
    · right
      rw [hnone]
      exact ⟨by simpa using hne, rfl, herrors⟩

/-- If no loop is known in any environment, none is known at all. -/
theorem cycleErrors_eq_nil
    {job : Job}
    (h : ∀ environment,
      job.cycleErrors.filter (fun e => e.environment.getD "" = environment) = []) :
  job.cycleErrors = []
  := by
  apply List.eq_nil_iff_forall_not_mem.mpr
  intro e he
  apply List.filter_eq_nil_iff.mp (h (e.environment.getD "")) e he
  simp

end Job

/-- Every one of some configs has an outcome of its own in the report of its environment,
and a good one. -/
def Report.Accounts (report : Report) (items : List (String × Config)) : Prop :=
  ∀ environment, ∃ own : List Outcome,
    own.Subperm (report.environment environment).outcomes
      ∧ (∀ o ∈ own, o.ok = true)
      ∧ List.Forall₂ (fun item o => o.IsOf item)
        (items.filter (fun item => item.1 = environment)) own

namespace Job

variable {job : Job} {setup : Setup σ} {s s' : Session σ} {report : Report}

theorem isOf_outcome
    {v : Visit σ} (hv : v ∈ job.visits setup s) {o : Outcome} (ho : v.outcome? = some o) :
  o.IsOf v.item
  := by
  rw [Visit.outcome?_eq_some_iff, deployed_visit hv] at ho
  apply Setup.isOf_deploy ho

/-- The visits of a run are made to the first of its configs. -/
theorem exists_rest
    (h : job.run setup s = .ok (report, s')) :
  ∃ rest, job.items = (job.visits setup s).map Visit.item ++ rest
  := by
  obtain ⟨-, p, hend, -⟩ := ending_run h
  cases hend with
  | complete items_eq =>
    use []
    rw [List.append_nil]
    apply items_eq
  | cancelled items_eq => exact ⟨_, items_eq⟩
  | stopped _ items_eq => exact ⟨_, items_eq⟩

/-- The outcomes of an environment are those of the visits there, one for each. -/
theorem forall₂_outcomes
    (h : job.run setup s = .ok (report, s')) (environment : String) :
  List.Forall₂ (fun item o => o.IsOf item)
    (((job.visits setup s).map Visit.item).filter (fun item => item.1 = environment))
    (report.environment environment).outcomes
  := by
  rw [(environment_run h environment).1]
  apply Visit.forall₂_outcomes
  intro v hv
  obtain ⟨o, ho⟩ := (ending_run h).1 v hv
  exact ⟨o, ho, isOf_outcome hv ho⟩

/-- A run with a good verdict accounts for all configs that it was given. -/
theorem accounts_of_allOk
    (h : job.run setup s = .ok (report, s')) (hok : report.allOk = true) :
  report.Accounts job.given
  := by
  rw [Report.allOk, Bool.and_eq_true, List.isEmpty_iff, Bool.not_eq_true'] at hok
  obtain ⟨herrors, hcancelled⟩ := hok
  obtain ⟨hcycles, hsettled⟩ := (errors_eq_nil_iff h).mp herrors
  have hitems : job.items = (job.visits setup s).map Visit.item := by
    rcases items_eq_of_settles h hsettled with ⟨-, hall⟩ | ⟨hcancel, -⟩
    · apply hall
    · rw [hcancelled] at hcancel
      cases hcancel
  intro environment
  have hperm : (job.given.filter (fun item => item.1 = environment)).Perm
      (job.items.filter (fun item => item.1 = environment)) := by
    rcases job.items_cases environment with ⟨hperm, -⟩ | ⟨-, -, hcycle⟩
    · apply hperm.symm
    · rw [hcycles] at hcycle
      exact absurd rfl hcycle
  have houtcomes := forall₂_outcomes h environment
  rw [← hitems] at houtcomes
  obtain ⟨own, hown, hsame⟩ := List.perm_comp_forall₂ hperm houtcomes
  use own, hsame.subperm
  constructor
  · intro o ho
    rw [hsame.mem_iff, (environment_run h environment).1] at ho
    obtain ⟨v, hv, -, ho⟩ := Visit.mem_outcomes.mp ho
    obtain ⟨o', ho', hok⟩ := hsettled v hv
    rw [ho, Option.some_inj] at ho'
    rw [ho']
    apply hok
  · apply hown

/-- If a run accounts for the configs that it was given in an environment, then these have
all been visited there, no loop is known, and all outcomes are good. -/
theorem environment_of_accounts
    (h : job.run setup s = .ok (report, s')) {rest : List (String × Config)}
    (hrest : job.items = (job.visits setup s).map Visit.item ++ rest)
    (haccounts : report.Accounts job.given) (environment : String) :
  rest.filter (fun item => item.1 = environment) = []
    ∧ job.cycleErrors.filter (fun e => e.environment.getD "" = environment) = []
    ∧ ∀ o ∈ (report.environment environment).outcomes, o.ok = true
  := by
  -- Each given config has an outcome of its own, and no more configs were visited than came
  -- up, so the counts leave room neither for a rest nor for outcomes beside these.
  obtain ⟨own, hsub, hok, hown⟩ := haccounts environment
  have hvisited := (forall₂_outcomes h environment).length_eq
  have hitems : (job.items.filter (fun item => item.1 = environment)).length
      = (((job.visits setup s).map Visit.item).filter (fun item => item.1 = environment)).length
        + (rest.filter (fun item => item.1 = environment)).length := by
    rw [hrest, List.filter_append, List.length_append]
  have hlength := hown.length_eq
  have hle := hsub.length_le
  rcases job.items_cases environment with ⟨hperm, hcycle⟩ | ⟨hne, hnil, -⟩
  · have hgiven := hperm.length_eq
    have hsame : own.Perm (report.environment environment).outcomes := by
      apply hsub.perm_of_length_le
      omega
    constructor
    · apply List.length_eq_zero_iff.mp
      omega
    · use hcycle
      intro o ho
      apply hok o (hsame.mem_iff.mpr ho)
  · have hpos := List.length_pos_iff.mpr hne
    rw [hnil, List.length_nil] at hitems
    omega

/-- A run that accounts for all configs that it was given has a good verdict. -/
theorem allOk_of_accounts
    (h : job.run setup s = .ok (report, s')) (haccounts : report.Accounts job.given) :
  report.allOk = true
  := by
  obtain ⟨rest, hrest⟩ := exists_rest h
  have hall := environment_of_accounts h hrest haccounts
  have hsettled : ∀ v ∈ job.visits setup s, v.Settles := by
    intro v hv
    obtain ⟨o, ho⟩ := (ending_run h).1 v hv
    use o, ho
    apply (hall v.environment).2.2
    rw [(environment_run h _).1]
    exact Visit.mem_outcomes.mpr ⟨v, hv, rfl, ho⟩
  have hcycles := cycleErrors_eq_nil (fun environment => (hall environment).2.1)
  rw [Report.allOk, (errors_eq_nil_iff h).mpr ⟨hcycles, hsettled⟩]
  rcases items_eq_of_settles h hsettled with ⟨hcancelled, -⟩ | ⟨-, -, item, rest', hsome⟩
  · rw [hcancelled]
    rfl
  · rw [hrest, List.append_cancel_left_eq] at hsome
    have hnil := (hall item.1).1
    rw [hsome, List.filter_cons_of_pos (by simp)] at hnil
    cases hnil

/-- The verdict on a run is good exactly if every config that the run was given has an
outcome of its own, and a good one.  In every environment the outcomes are counted in
full, and the errors are those of the loops and then those of the outcomes, in the order of
the visits. -/
theorem allOk_iff
    (h : job.run setup s = .ok (report, s')) :
  (report.allOk = true ↔ report.Accounts job.given)
    ∧ ∀ environment,
      (report.environment environment).count .deployed
          + (report.environment environment).count .skipped
          + (report.environment environment).count .failed
        = (report.environment environment).outcomes.length
      ∧ (report.environment environment).outcomes
        = Visit.outcomes environment (job.visits setup s)
      ∧ (report.environment environment).errors
        = job.cycleErrors.filter (fun e => e.environment.getD "" = environment)
          ++ (report.environment environment).outcomes.flatMap Outcome.errors
  := by
  constructor
  · constructor
    · apply accounts_of_allOk h
    · apply allOk_of_accounts h
  · intro environment
    obtain ⟨houtcomes, herrors⟩ := environment_run h environment
    constructor
    · apply EnvironmentReport.count_add
      intro o ho
      rw [houtcomes] at ho
      obtain ⟨v, hv, -, ho⟩ := Visit.mem_outcomes.mp ho
      apply (contained_outcome hv ho).not_pending
    · exact ⟨houtcomes, herrors⟩

end Job

/-- The run over the two dashboards accounts for both of them. -/
theorem allOk_iff_overview :
  ∃ report s', (Job.unsorted [Sample.overview, Sample.board]).run Sample.setup Sample.session
      = .ok (report, s')
    ∧ report.Accounts (Job.unsorted [Sample.overview, Sample.board]).given
  := by
  have hok : ((Job.unsorted [Sample.overview, Sample.board]).run Sample.setup
      Sample.session).toOption.map (fun result => result.1.allOk) = some true := by
    decide +kernel
  obtain ⟨⟨report, s'⟩, h, hallOk⟩ := exists_eq_ok hok
  exact ⟨report, s', h, (Job.allOk_iff h).1.mp hallOk⟩

end Rollout
