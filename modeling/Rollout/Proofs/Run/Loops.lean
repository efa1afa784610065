import Rollout.Proofs.Deploy.Requests
import Rollout.Proofs.Run.Isolation
import Rollout.Proofs.Run.Totality

/-!
# Runs over configs with loops

When a run sorts its configs, an environment whose configs depend on each other in a loop is
left alone: nothing is there to tell of it but the loops.  No config of any other environment
is lost: each has its outcome, in the order in which the configs are sorted.
-/

namespace Rollout

variable {σ : Type}

namespace Job

variable {job : Job} {setup : Setup σ} {s s' : Session σ} {report : Report}
  {configs : List Config} {environment : String}

/-- An environment that no visit is made in keeps its empty books. -/
theorem booksAfter_eq_empty
    {history : List (Visit σ)} (h : ∀ v ∈ history, v.environment ≠ environment) :
  job.booksAfter setup s history environment = .empty
  := by
  induction history using List.reverseRecOn with
  | nil => apply booksAfter_nil
  | append_singleton history v ih =>
    obtain ⟨hhistory, hv⟩ := List.forall_mem_append.mp h
    rw [booksAfter_concat, if_neg (fun hthere => hv v (List.mem_singleton_self v) hthere.1)]
    apply ih hhistory

/-- What is reported of the configs of an environment is a loop only if a parameter comes up
with one. -/
theorem raises_of_cycle
    {v : Visit σ} (hv : v ∈ job.visits setup s) {o : Outcome} (ho : v.outcome? = some o)
    {e : DeployError} (he : e ∈ o.errors) {members : List Coordinate}
    (hkind : e.kind = .cycle members) :
  v.config.Raises (.cycle members)
  := by
  rw [Visit.outcome?_eq_some_iff, deployed_visit hv] at ho
  rcases setup.course_visit v.environment v.config v.books v.session
    with ⟨mode, hcourse⟩ | hunserved
  · apply hcourse.raises_of_cycle ho he hkind
  · rw [hunserved] at ho
    cases ho
    obtain rfl := List.mem_singleton.mp he
    cases hkind

/-- A run that visits all its configs visits the sorted configs of each environment. -/
theorem item_visits_unsorted
    (h : (unsorted configs).run setup s = .ok (report, s'))
    (hcontinue : setup.options.continueOnError = true) (hcancel : ∀ n, setup.cancelled n = false)
    (environment : String) :
  (((unsorted configs).visits setup s).map Visit.item).filter
      (fun item => item.1 = environment)
    = (Sorted.ofConfigs (configs.filter (fun c => c.environment = environment))
        environment).configs.map (fun c => (environment, c))
  := by
  rw [← items_eq_visits h hcontinue hcancel, filter_items_unsorted]

/-- An environment with a loop is not visited. -/
theorem visits_of_hasCycle
    (h : (unsorted configs).run setup s = .ok (report, s'))
    (hcontinue : setup.options.continueOnError = true) (hcancel : ∀ n, setup.cancelled n = false)
    (hcycle : HasCycle (configs.filter (fun c => c.environment = environment))) :
  ∀ v ∈ (unsorted configs).visits setup s, v.environment ≠ environment
  := by
  have hitems := item_visits_unsorted h hcontinue hcancel environment
  rw [Sorted.ofConfigs_of_hasCycle hcycle] at hitems
  intro v hv henvironment
  apply List.filter_eq_nil_iff.mp hitems v.item (List.mem_map_of_mem hv)
  apply decide_eq_true henvironment

/-- Loops are contained, and no config is lost.  If a run over configs in any order comes to an
end without being cancelled and continues after errors, then the report of an environment
whose configs have a cycle holds the loops that rule an order out and nothing else: no outcome
and no entry in the books, and no client is called there.  The report of any other environment
holds one outcome for each of its configs, in the order in which they are sorted, and it tells
of no loop, unless a parameter comes up with one. -/
theorem loops_contained
    (h : (unsorted configs).run setup s = .ok (report, s'))
    (hcontinue : setup.options.continueOnError = true) (hcancel : ∀ n, setup.cancelled n = false)
    (environment : String) :
  (HasCycle (configs.filter (fun c => c.environment = environment)) →
      (report.environment environment).outcomes = []
        ∧ (report.environment environment).books = .empty
        ∧ Visit.callsIn setup environment ((unsorted configs).visits setup s) = []
        ∧ (report.environment environment).errors ≠ []
        ∧ ∀ e ∈ (report.environment environment).errors,
          (∃ members, e.kind = .cycle members) ∧ e.environment = nonempty? environment)
    ∧ (¬ HasCycle (configs.filter (fun c => c.environment = environment)) →
      (Sorted.ofConfigs (configs.filter (fun c => c.environment = environment))
          environment).configs.Perm (configs.filter (fun c => c.environment = environment))
        ∧ List.Forall₂ (fun c o => o.IsOf (environment, c))
          (Sorted.ofConfigs (configs.filter (fun c => c.environment = environment))
            environment).configs
          (report.environment environment).outcomes
        ∧ ∀ e ∈ (report.environment environment).errors, ∀ members, e.kind = .cycle members →
          ∃ c ∈ configs, c.environment = environment ∧ c.Raises (.cycle members))
  := by
  obtain ⟨houtcomes, herrors⟩ := environment_run h environment
  rw [cycleErrors, SortedEnvironments.filter_errors] at herrors
  constructor
  · intro hcycle
    have hnone := visits_of_hasCycle h hcontinue hcancel hcycle
    have hvisits : ((unsorted configs).visits setup s).filter
        (fun v => v.environment = environment) = [] := by
      apply List.filter_eq_nil_iff.mpr
      intro v hv
      simpa using hnone v hv
    have hnil : (report.environment environment).outcomes = [] := by
      rw [houtcomes, Visit.outcomes, hvisits, List.filterMap_nil]
    rw [hnil, List.flatMap_nil, List.append_nil] at herrors
    use hnil
    constructor
    · rw [books_run h]
      apply booksAfter_eq_empty hnone
    · constructor
      · rw [Visit.callsIn, hvisits, List.flatMap_nil]
      · obtain ⟨hsome, hkinds⟩ := Sorted.cycleErrors_spec hcycle environment
        have hloops := congrArg Sorted.errors (Sorted.ofConfigs_of_hasCycle hcycle environment)
        rw [herrors]
        constructor
        · rw [hloops]
          apply hsome
        · intro e he
          constructor
          · rw [hloops] at he
            apply hkinds e he
          · apply Sorted.environment_of_mem_errors he
  · intro hcycle
    have hloops := congrArg Sorted.errors (Sorted.ofConfigs_of_not_hasCycle hcycle environment)
    rw [hloops, List.nil_append] at herrors
    use (Sorted.configs_of_not_hasCycle hcycle environment).1
    constructor
    · have houtcomes := forall₂_outcomes h environment
      rw [item_visits_unsorted h hcontinue hcancel, List.forall₂_map_left_iff] at houtcomes
      apply houtcomes
    · intro e he members hkind
      rw [herrors, houtcomes] at he
      obtain ⟨o, ho, he⟩ := List.mem_flatMap.mp he
      obtain ⟨v, hv, henvironment, ho⟩ := Visit.mem_outcomes.mp ho
      have hmem : v.item ∈ (Sorted.ofConfigs (configs.filter
          (fun c => c.environment = environment)) environment).configs.map
            (fun c => (environment, c)) := by
        rw [← item_visits_unsorted h hcontinue hcancel]
        apply List.mem_filter.mpr
        exact ⟨List.mem_map_of_mem hv, decide_eq_true henvironment⟩
      obtain ⟨c, hc, hitem⟩ := List.mem_map.mp hmem
      obtain ⟨hconfig, hthere⟩ := List.mem_filter.mp (Sorted.mem_of_mem_configs hc)
      use c, hconfig, of_decide_eq_true hthere
      have hraises := raises_of_cycle hv ho he hkind
      obtain rfl : c = v.config := congrArg Prod.snd hitem
      apply hraises

end Job

namespace Sample

/-- A dashboard that shows the one that it is shown on. -/
def inner : Config :=
  { overview with
    coordinate := ⟨"shop", "dashboard", "inner"⟩
    parameters := .ofList [(nameParameter, .value (.text "Inner")),
      ("shown", .reference ⟨⟨"shop", "dashboard", "outer"⟩, idProperty⟩)] }

/-- The dashboard that the inner one is shown on. -/
def outer : Config :=
  { overview with
    coordinate := ⟨"shop", "dashboard", "outer"⟩
    parameters := .ofList [(nameParameter, .value (.text "Outer")),
      ("shown", .reference ⟨⟨"shop", "dashboard", "inner"⟩, idProperty⟩)] }

/-- Two dashboards show each other. -/
theorem hasCycle_inner : HasCycle [inner, outer]
  := by
  have hinner : Edge [inner, outer] 0 1 := ⟨inner, outer, rfl, rfl, by decide +kernel⟩
  have houter : Edge [inner, outer] 1 0 := ⟨outer, inner, rfl, rfl, by decide +kernel⟩
  exact ⟨0, .tail (.single hinner) houter⟩

end Sample

/-- Two dashboards that show each other are not deployed, and a dashboard elsewhere is. -/
theorem loops_contained_inner :
  ∃ report s', (Job.unsorted [Sample.inner, Sample.replica, Sample.outer]).run Sample.setup
      Sample.session = .ok (report, s')
    ∧ (report.environment "test").outcomes = [] ∧ (report.environment "test").errors ≠ []
    ∧ List.Forall₂ (fun c o => o.IsOf ("live", c)) [Sample.replica]
      (report.environment "live").outcomes
  := by
  have hrun : ((Job.unsorted [Sample.inner, Sample.replica, Sample.outer]).run Sample.setup
      Sample.session).toOption.map (fun _ => ()) = some () := by decide +kernel
  obtain ⟨⟨report, s'⟩, h, -⟩ := exists_eq_ok hrun
  obtain ⟨houtcomes, -, -, herrors, -⟩ :=
    (Job.loops_contained h rfl (fun _ => rfl) "test").1 Sample.hasCycle_inner
  have hlive : ¬ HasCycle ([Sample.inner, Sample.replica, Sample.outer].filter
      (fun c => c.environment = "live")) := by
    apply @Sorted.not_hasCycle_of_errors _ "live"
    decide +kernel
  obtain ⟨-, hdistant, -⟩ := (Job.loops_contained h rfl (fun _ => rfl) "live").2 hlive
  exact ⟨report, s', h, houtcomes, herrors, hdistant⟩

end Rollout
