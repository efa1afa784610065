import Rollout.Proofs.Order.Environments
import Rollout.Proofs.Run.Dependencies

/-!
# Runs over sorted configs

When a run sorts its configs, a config that is reported as lacking a dependency lacks it
whatever the order: all configs at the coordinate that it refers to have come up before it
in its environment, and all of them failed, if there are any.
-/

namespace Rollout

variable {σ : Type}

/-! ### The configs of one environment -/

/-- Of the configs in a row, those of an environment are the ones it is listed with. -/
theorem Setup.filter_itemsOf
    (configs : Table String (List Config)) (environment : String) :
  (itemsOf configs).filter (fun item => item.1 = environment)
    = ((configs.find? environment).getD []).map (fun c => (environment, c))
  := by
  rw [itemsOf]
  have hfilter := configs.filter_flatMap_entries (fun name cs => cs.map (fun c => (name, c)))
    Prod.fst
    (by
      intro name cs item hitem
      obtain ⟨c, -, rfl⟩ := List.mem_map.mp hitem
      rfl)
    environment
  apply hfilter.trans
  cases configs.find? environment with
  | none => rfl
  | some cs => rfl

/-- All configs that are given at a coordinate of an environment have been visited, each as
often as it is given, and all of them failed. -/
structure HasFailed (configs : List Config) (environment : String) (t : Coordinate)
    (visits : List (Visit σ)) : Prop where
  visited : ((visits.filter (fun v => v.IsAt environment t)).map Visit.config).Perm
    (configs.filter (fun c => c.environment = environment ∧ c.coordinate = t))
  failed : ∀ v ∈ visits, v.IsAt environment t → v.state? = some .failed

namespace Job

variable {setup : Setup σ} {s : Session σ} {before after : List (Visit σ)} {v : Visit σ}

/-- A visit that reports a missing dependency comes from a reference to a coordinate that
nothing has been left at. -/
theorem missing_visit
    {job : Job} (h : v ∈ job.visits setup s) (hregular : v.config.IsRegular) {o : Outcome}
    (ho : v.outcome? = some o) {e : DeployError} (he : e ∈ o.errors)
    {referenced : Option Coordinate} {property : String}
    (hkind : e.kind = .reference .undeployed referenced property) :
  ∃ t ∈ v.config.references, referenced = some t ∧ t ≠ v.config.coordinate
    ∧ v.books.registry.find? t = none
  := by
  rw [Visit.outcome?_eq_some_iff, deployed_visit h] at ho
  rcases setup.course_visit v.environment v.config v.books v.session
    with ⟨mode, hcourse⟩ | hunserved
  · apply hcourse.missing ho hregular he hkind
  · rw [hunserved] at ho
    cases ho
    obtain rfl := List.mem_singleton.mp he
    cases hkind

/-- In front of a visit, the visits in its environment are made to the configs that stand
in front of its config in the order of the environment. -/
theorem exists_sorted
    {configs : List Config} (h : (unsorted configs).visits setup s = before ++ v :: after) :
  ∃ rest, (SortedEnvironments.ofConfigs configs).configs.find? v.environment
    = some ((before.filter (fun u => u.environment = v.environment)).map Visit.config
        ++ v.config :: rest)
  := by
  obtain ⟨-, -, rest, hitems⟩ := Setup.visits_split h
  have hfilter := Setup.filter_itemsOf (SortedEnvironments.ofConfigs configs).configs v.environment
  rw [items] at hitems
  rw [hitems] at hfilter
  use (rest.filter (fun item => item.1 = v.environment)).map Prod.snd
  have hconfigs := congrArg (List.map Prod.snd) hfilter
  cases hfind : (SortedEnvironments.ofConfigs configs).configs.find? v.environment with
  | none =>
    rw [hfind] at hconfigs
    simp [Visit.item] at hconfigs
  | some sorted =>
    rw [hfind] at hconfigs
    simp only [Option.getD_some, List.filter_append, List.filter_map, List.map_append,
      List.map_map, Visit.item, List.filter_cons_of_pos, decide_true, List.map_cons,
      Function.comp_def, List.map_id'] at hconfigs
    rw [← hconfigs]
    rfl

/-- A config that is visited is one of the given ones. -/
theorem mem_configs
    {configs : List Config} (h : v ∈ (unsorted configs).visits setup s) :
  v.config ∈ configs
  := by
  obtain ⟨before, after, h⟩ := List.append_of_mem h
  obtain ⟨rest, hfind⟩ := exists_sorted h
  have hperm := (SortedEnvironments.of_find?_configs hfind).1
  have hmem := hperm.mem_iff.mp (List.mem_append_right _ List.mem_cons_self)
  apply (List.mem_filter.mp hmem).1

/-- If nothing is in the registry at a coordinate that a config refers to, then the configs
at this coordinate have come up before, each as often as it is given, and all of them
failed. -/
theorem hasFailed_of_missing
    {configs : List Config} (h : (unsorted configs).visits setup s = before ++ v :: after)
    {t : Coordinate} (ht : t ∈ v.config.references) (hne : t ≠ v.config.coordinate)
    (hmissing : v.books.registry.find? t = none) :
  HasFailed configs v.environment t before
  := by
  constructor
  · obtain ⟨rest, hfind⟩ := exists_sorted h
    obtain ⟨hperm, hpairwise⟩ := SortedEnvironments.of_find?_configs hfind
    have hlater : rest.filter (fun c => c.coordinate = t) = [] := by
      rw [List.filter_eq_nil_iff]
      intro d hd hdt
      have hdepends := (List.pairwise_cons.mp (List.pairwise_append.mp hpairwise).2.1).1 d hd
      apply hdepends
      rw [decide_eq_true_eq] at hdt
      subst hdt
      exact ⟨ht, hne⟩
    have hat := hperm.filter (fun c => c.coordinate = t)
    rw [List.filter_append, List.filter_cons_of_neg (by simpa using hne.symm), hlater,
      List.append_nil, List.filter_map, List.filter_filter, List.filter_filter] at hat
    simpa [Function.comp_def, Bool.and_comm] using hat
  · intro u hu hat
    apply failed_of_entity? h hu
    apply Visit.latest?_eq_none _ u hu hat
    rw [← registry_visit h, hmissing]

/-- A missing dependency is never due to the order: in a run over configs in any order that
are made of ways to a value, whatever a config is reported to lack is something it refers to,
and all configs given there have failed before it, if there are any. -/
theorem undeployed_hasFailed
    {configs : List Config} (hregular : ∀ c ∈ configs, c.IsRegular) (setup : Setup σ)
    (s : Session σ) :
  (∀ report s', (unsorted configs).run setup s = .ok (report, s') → ∀ environment,
      ∀ e ∈ (report.environment environment).errors,
        ∀ referenced property, e.kind = .reference .undeployed referenced property →
          ∃ v ∈ (unsorted configs).visits setup s, v.environment = environment
            ∧ ∃ o, v.outcome? = some o ∧ e ∈ o.errors)
    ∧ ∀ before v after, (unsorted configs).visits setup s = before ++ v :: after →
        ∀ o, v.outcome? = some o → ∀ e ∈ o.errors,
          ∀ referenced property, e.kind = .reference .undeployed referenced property →
            ∃ t ∈ v.config.references, referenced = some t
              ∧ HasFailed configs v.environment t before
  := by
  constructor
  · intro report s' h environment e he referenced property hkind
    obtain ⟨houtcomes, herrors⟩ := environment_run h environment
    rw [herrors, houtcomes] at he
    rcases List.mem_append.mp he with hcycle | houtcome
    · obtain ⟨members, hmembers⟩ :=
        SortedEnvironments.kind_of_mem_errors (List.mem_filter.mp hcycle).1
      rw [hmembers] at hkind
      cases hkind
    · obtain ⟨o, ho, he⟩ := List.mem_flatMap.mp houtcome
      obtain ⟨v, hv, ho⟩ := List.mem_filterMap.mp ho
      obtain ⟨hv, henvironment⟩ := List.mem_filter.mp hv
      exact ⟨v, hv, of_decide_eq_true henvironment, o, ho, he⟩
  · intro before v after h o ho e he referenced property hkind
    have hmem : v ∈ (unsorted configs).visits setup s := by simp [h]
    obtain ⟨t, ht, hreferenced, hne, hmissing⟩ :=
      missing_visit hmem (hregular _ (mem_configs hmem)) ho he hkind
    exact ⟨t, ht, hreferenced, hasFailed_of_missing h ht hne hmissing⟩

end Job

namespace Sample

/-- The first dashboard with a payload that is not JSON. -/
def spoiled : Config :=
  { board with template := ⟨"board.json", "["⟩ }

end Sample

/-- The dashboard that shows another one lacks it because that one has failed before. -/
theorem undeployed_hasFailed_overview :
  ∃ before v after,
    (Job.unsorted [Sample.overview, Sample.spoiled]).visits Sample.setup Sample.session
      = before ++ v :: after
    ∧ v.config.references = [Sample.board.coordinate]
    ∧ HasFailed [Sample.overview, Sample.spoiled] v.environment Sample.board.coordinate before
  := by
  have hvisits : ((Job.unsorted [Sample.overview, Sample.spoiled]).visits Sample.setup
      Sample.session).map (fun v => (v.config.references, v.outcome?.map (fun o => o.errors.map
        DeployError.kind)))
      = [([], some [.payload]), ([Sample.board.coordinate],
        some [.reference .undeployed (some Sample.board.coordinate) idProperty])] := by
    decide +kernel
  have hregular : ∀ c ∈ [Sample.overview, Sample.spoiled], c.IsRegular := by
    intro c hc
    rcases List.mem_pair.mp hc with rfl | rfl
    all_goals
      constructor
      · decide
      · intro p hp
        cases hp
  obtain ⟨u, v, hsplit, -, hv⟩ := Visit.pair_of_map hvisits
  obtain ⟨hreferences, hkinds⟩ := Prod.mk.inj hv
  obtain ⟨o, ho, herrors⟩ := Option.map_eq_some_iff.mp hkinds
  obtain ⟨e, rest, heq, he, -⟩ := List.map_eq_cons_iff.mp herrors
  obtain ⟨t, -, ht, hfailed⟩ := (Job.undeployed_hasFailed hregular Sample.setup
    Sample.session).2 [u] v [] hsplit o ho e (by simp [heq]) _ _ he
  cases ht
  exact ⟨[u], v, [], hsplit, hreferences, hfailed⟩

end Rollout
