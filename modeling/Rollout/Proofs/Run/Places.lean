import Rollout.Proofs.Deploy.Places
import Rollout.Proofs.Deploy.Together
import Rollout.Proofs.Run.Accounts

/-!
# The places of errors in a run

The report of a run is filed by environments.  What stands under an environment is about it,
whichever environment the configs themselves tell, and each error there is about the config
for which it came up.
-/

namespace Rollout

variable {σ : Type}

/-! ### What is filed under an environment -/

/-- Visits leave the report of an environment with its environment. -/
theorem Setup.environment_environment_after
    (setup : Setup σ) (p : Progress σ) (visits : List (Visit σ)) (environment : String) :
  ((setup.after p visits).report.environment environment).environment
    = (p.report.environment environment).environment
  := by
  induction visits using List.reverseRecOn with
  | nil => rfl
  | append_singleton visits v ih =>
    rw [after_concat, ← ih]
    cases ho : v.outcome? with
    | none => rw [Progress.follow, ho]
    | some o =>
      rw [Progress.environment_follow _ _ ho]
      split
      · rfl
      · rfl

namespace Job

variable {job : Job} {setup : Setup σ} {s s' : Session σ} {report : Report}

/-- The report of a run tells under each environment of this environment. -/
theorem environment_environment_run
    (h : job.run setup s = .ok (report, s')) (environment : String) :
  (report.environment environment).environment = environment
  := by
  obtain ⟨-, henvironments, -⟩ := run_eq_ok h
  rw [Report.environment, henvironments, ← Report.environment,
    Setup.environment_environment_after, environment_start]
  rfl

/-- What comes up in a run is what the run was given. -/
theorem mem_given_of_mem_items
    {item : String × Config} (h : item ∈ job.items) :
  item ∈ job.given
  := by
  have hitem : item ∈ job.items.filter (fun other => other.1 = item.1) :=
    List.mem_filter.mpr ⟨h, decide_eq_true rfl⟩
  rcases job.items_cases item.1 with ⟨hperm, -⟩ | ⟨-, hnil, -⟩
  · apply (List.mem_filter.mp (hperm.mem_iff.mp hitem)).1
  · rw [hnil] at hitem
    cases hitem

end Job

/-! ### The errors of a visit -/

namespace Setup

variable {setup : Setup σ} {environment : String} {c : Config} {b : Books} {s : Session σ}
  {o : Outcome}

/-- The errors of a config are those of the environment to which it is deployed. -/
theorem environment_errors_deploy
    (h : (setup.deploy environment c b s).result = .ok o) :
  ∀ e ∈ o.errors, e.environment = nonempty? environment
  := by
  rcases setup.course_visit environment c b s with ⟨mode, hcourse⟩ | hunserved
  · apply hcourse.environment_errors h
  · rw [hunserved] at h
    cases h
    intro e he
    obtain rfl := List.mem_singleton.mp he
    rfl

/-- The errors of a config that is confined are about the config. -/
theorem localises_deploy
    (h : (setup.deploy environment c b s).result = .ok o) (hconfined : c.IsConfined) :
  ∀ e ∈ o.errors, c.Localises e
  := by
  rcases setup.course_visit environment c b s with ⟨mode, hcourse⟩ | hunserved
  · apply hcourse.localises h hconfined
  · rw [hunserved] at h
    cases h
    intro e he
    obtain rfl := List.mem_singleton.mp he
    constructor
    · rfl
    · intro hkind
      cases hkind
    · intro name hname
      cases hname

end Setup

namespace Job

variable {job : Job} {setup : Setup σ} {s s' : Session σ} {report : Report}

/-- Every outcome in the report of a run is filed under its environment, and it is that of a
config which the run was given there.  Its errors are those of the environment.  If the
parameters of the config blame nothing but themselves, then the errors are about the config, and
those about a parameter name one that it declares, or the scope or the name that it lacks. -/
theorem errors_localised
    (h : job.run setup s = .ok (report, s')) {environment : String} {r : EnvironmentReport}
    (hr : report.environments.find? environment = some r) :
  r.environment = environment
    ∧ ∀ o ∈ r.outcomes, o.environment = environment
      ∧ (∀ e ∈ o.errors, e.environment = nonempty? o.environment)
      ∧ ∃ c, (environment, c) ∈ job.given ∧ o.coordinate = c.coordinate
        ∧ (c.IsConfined → ∀ e ∈ o.errors, e.coordinate = some o.coordinate ∧ c.Localises e)
  := by
  have hfiled : report.environment environment = r := by
    rw [Report.environment, hr, Option.getD_some]
  have henvironment := environment_environment_run h environment
  obtain ⟨houtcomes, -⟩ := environment_run h environment
  rw [hfiled] at henvironment houtcomes
  use henvironment
  intro o hmem
  rw [houtcomes] at hmem
  obtain ⟨v, hv, rfl, ho⟩ := Visit.mem_outcomes.mp hmem
  obtain ⟨hcoordinate, hplace⟩ := isOf_outcome hv ho
  rw [Visit.outcome?_eq_some_iff, deployed_visit hv] at ho
  use hplace
  constructor
  · rw [hplace]
    apply Setup.environment_errors_deploy ho
  · obtain ⟨rest, hitems⟩ := exists_rest h
    have hitem : v.item ∈ job.items := by
      rw [hitems]
      apply List.mem_append_left _ (List.mem_map_of_mem hv)
    use v.config, mem_given_of_mem_items hitem, hcoordinate
    intro hconfined e he
    have hlocalises := Setup.localises_deploy ho hconfined e he
    rw [hcoordinate]
    exact ⟨hlocalises.coordinate, hlocalises⟩

end Job

/-- The profile is deployed to another environment than its own, and all its errors are about
it there. -/
theorem errors_localised_profile :
  ∃ report s' r, (Job.perEnvironment (.ofList [("prod", [Sample.profile])])).run Sample.setup
      Sample.session = .ok (report, s')
    ∧ report.environments.find? "prod" = some r
    ∧ r.errors.map DeployError.kind = [.noScope,
      .reference .own (some Sample.profile.coordinate) idProperty, .parameter, .parameter]
    ∧ r.environment = "prod"
    ∧ ∀ o ∈ r.outcomes, o.environment = "prod"
      ∧ (∀ e ∈ o.errors, e.environment = some "prod")
      ∧ ∀ e ∈ o.errors, e.coordinate = some o.coordinate ∧ Sample.profile.Localises e
  := by
  have hkinds : ((Job.perEnvironment (.ofList [("prod", [Sample.profile])])).run Sample.setup
      Sample.session).toOption.map
        (fun result => (result.1.environments.find? "prod").map
          (fun r => r.errors.map DeployError.kind))
      = some (some [.noScope, .reference .own (some Sample.profile.coordinate) idProperty,
        .parameter, .parameter]) := by
    decide +kernel
  obtain ⟨⟨report, s'⟩, h, hfound⟩ := exists_eq_ok hkinds
  obtain ⟨r, hr, hkinds⟩ := Option.map_eq_some_iff.mp hfound
  have hfailures : Sample.profile.parameters.entries.flatMap (fun entry => entry.2.failures)
      = [.badType "broken"] := rfl
  have hconfined : Sample.profile.IsConfined := by
    constructor
    · intro entry hentry e he
      have hown : .deploy e ∈ Sample.profile.parameters.entries.flatMap
          (fun entry => entry.2.failures) := List.mem_flatMap.mpr ⟨entry, hentry, he⟩
      rw [hfailures] at hown
      cases List.mem_singleton.mp hown
    · intro p hp
      cases hp
  obtain ⟨hfiled, houtcomes⟩ := Job.errors_localised h hr
  use report, s', r, h, hr, hkinds, hfiled
  intro o ho
  obtain ⟨hplace, henvironment, c, hgiven, -, hlocalises⟩ := houtcomes o ho
  obtain ⟨-, rfl⟩ := Prod.mk.inj (List.mem_singleton.mp hgiven)
  rw [hplace] at henvironment
  exact ⟨hplace, henvironment, hlocalises hconfined⟩

end Rollout
