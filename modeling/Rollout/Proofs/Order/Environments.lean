import Rollout.Proofs.Order.Sort

/-!
# The order of configs in several environments

The configs of an environment are sorted apart from all others.  What is sorted are the
configs of the environment, each as often as it is given, and each comes after those that
it depends on.
-/

namespace Rollout

/-- What the entries of a table are spread out to, each item marked with its key, holds for
each key what its value is spread out to. -/
theorem Table.filter_flatMap_entries
    {κ ν α : Type} [DecidableEq κ] (t : Table κ ν) (f : κ → ν → List α) (key : α → κ)
    (hkey : ∀ k v, ∀ x ∈ f k v, key x = k) (k : κ) :
  (t.entries.flatMap (fun e => f e.1 e.2)).filter (fun x => key x = k)
    = ((t.find? k).map (f k)).getD []
  := by
  obtain ⟨es, hes⟩ := t
  rw [find?]
  induction es with
  | nil => rfl
  | cons e es ih =>
    obtain ⟨k', v⟩ := e
    rw [List.map_cons, List.nodup_cons] at hes
    rw [List.flatMap_cons, List.filter_append, ih hes.2, lookup]
    by_cases hk : k' = k
    · subst hk
      have hrest : lookup k' es = none := by
        cases hlookup : lookup k' es with
        | none => rfl
        | some w => exact absurd (List.mem_map_of_mem (mem_of_lookup hlookup)) hes.1
      have hall : (f k' v).filter (fun x => key x = k') = f k' v := by
        apply List.filter_eq_self.mpr
        intro x hx
        apply decide_eq_true (hkey k' v x hx)
      simp [hrest, hall]
    · have hnone : (f k' v).filter (fun x => key x = k) = [] := by
        apply List.filter_eq_nil_iff.mpr
        intro x hx
        rw [hkey k' v x hx]
        simpa using hk
      simp [hk, hnone]

/-- The group of an environment holds the configs that have it, in order. -/
theorem find?_byEnvironment
    (configs : List Config) (environment : String) :
  ((byEnvironment configs).find? environment).getD []
    = configs.filter (fun c => c.environment = environment)
  := by
  induction configs using List.reverseRecOn with
  | nil => rfl
  | append_singleton configs c ih =>
    have hconcat : byEnvironment (configs ++ [c]) = (byEnvironment configs).insert c.environment
        (((byEnvironment configs).find? c.environment).getD [] ++ [c]) := by
      rw [byEnvironment, List.foldl_append]
      rfl
    rw [hconcat, Table.find?_insert, List.filter_append, ← ih]
    split
    · rename_i h
      simp [h]
    · rename_i h
      simp [h]

/-- Configs that are sorted without errors have no cycle. -/
theorem Sorted.not_hasCycle_of_errors
    {configs : List Config} {environment : String}
    (h : (ofConfigs configs environment).errors = []) :
  ¬ HasCycle configs
  := by
  intro hcycle
  rw [ofConfigs_of_hasCycle hcycle] at h
  apply (cycleErrors_spec hcycle environment).1 h

/-- The sorted configs of an environment are those that have it, and none of them depends on
a later one. -/
theorem SortedEnvironments.of_find?_configs
    {configs sorted : List Config} {environment : String}
    (h : (ofConfigs configs).configs.find? environment = some sorted) :
  sorted.Perm (configs.filter (fun c => c.environment = environment))
    ∧ sorted.Pairwise (fun c d => ¬ c.DependsOn d)
  := by
  rw [ofConfigs] at h
  dsimp only at h
  rw [Table.find?_filterMap, Option.bind_eq_some_iff] at h
  obtain ⟨group, hgroup, hsorted⟩ := h
  split at hsorted
  · rename_i herrors
    cases hsorted
    rw [← find?_byEnvironment, hgroup]
    apply Sorted.configs_of_not_hasCycle
    apply Sorted.not_hasCycle_of_errors (List.isEmpty_iff.mp herrors)
  · cases hsorted

@[simp]
theorem getD_nonempty?
    (name : String) :
  (nonempty? name).getD "" = name
  := by
  rw [nonempty?]
  split
  · rename_i h
    rw [h]
    rfl
  · rfl

/-- The errors of sorting are about the environment that is sorted. -/
theorem Sorted.environment_of_mem_errors
    {configs : List Config} {environment : String} {e : DeployError}
    (he : e ∈ (ofConfigs configs environment).errors) :
  e.environment = nonempty? environment
  := by
  rw [ofConfigs] at he
  split at he
  · obtain ⟨members, -, rfl⟩ := List.mem_map.mp he
    rfl
  · cases he

/-- The errors about an environment are those of sorting its configs. -/
theorem SortedEnvironments.filter_errors
    (configs : List Config) (environment : String) :
  (ofConfigs configs).errors.filter (fun e => e.environment.getD "" = environment)
    = (Sorted.ofConfigs (configs.filter (fun c => c.environment = environment)) environment).errors
  := by
  have hfilter := (byEnvironment configs).filter_flatMap_entries
    (fun environment group => (Sorted.ofConfigs group environment).errors)
    (fun e => e.environment.getD "")
    (by
      intro environment group e he
      rw [Sorted.environment_of_mem_errors he, getD_nonempty?])
    environment
  rw [← find?_byEnvironment]
  apply hfilter.trans
  cases (byEnvironment configs).find? environment with
  | none => rfl
  | some group => rfl

/-- Sorting keeps all configs, or it keeps none of them and reports the loops. -/
theorem Sorted.ofConfigs_cases
    (configs : List Config) (environment : String) :
  ((ofConfigs configs environment).configs.Perm configs
      ∧ (ofConfigs configs environment).errors = [])
    ∨ configs ≠ [] ∧ (ofConfigs configs environment).errors ≠ []
  := by
  by_cases hcycle : HasCycle configs
  · right
    constructor
    · rintro rfl
      obtain ⟨i, hi⟩ := hcycle
      obtain ⟨j, ⟨c, d, hc, -⟩, -⟩ := Relation.TransGen.head'_iff.mp hi
      cases hc
    · rw [ofConfigs_of_hasCycle hcycle]
      apply (cycleErrors_spec hcycle environment).1
  · left
    use (configs_of_not_hasCycle hcycle environment).1
    rw [ofConfigs_of_not_hasCycle hcycle]

/-- Sorting that reports errors keeps no config. -/
theorem Sorted.configs_eq_nil
    {configs : List Config} {environment : String}
    (h : (ofConfigs configs environment).errors ≠ []) :
  (ofConfigs configs environment).configs = []
  := by
  rw [ofConfigs] at h ⊢
  split
  · rfl
  · rename_i hall
    rw [if_neg hall] at h
    exact absurd rfl h

/-- Sorting keeps given configs alone. -/
theorem Sorted.mem_of_mem_configs
    {configs : List Config} {environment : String} {c : Config}
    (h : c ∈ (ofConfigs configs environment).configs) :
  c ∈ configs
  := by
  rcases ofConfigs_cases configs environment with ⟨hperm, -⟩ | ⟨-, herrors⟩
  · apply hperm.mem_iff.mp h
  · rw [configs_eq_nil herrors] at h
    cases h

/-- The configs of an environment that are kept are those that are kept when it is sorted
alone. -/
theorem SortedEnvironments.getD_find?_configs
    (configs : List Config) (environment : String) :
  ((ofConfigs configs).configs.find? environment).getD []
    = (Sorted.ofConfigs (configs.filter (fun c => c.environment = environment))
        environment).configs
  := by
  rw [← find?_byEnvironment, ofConfigs]
  simp only [Table.find?_filterMap]
  cases (byEnvironment configs).find? environment with
  | none => rfl
  | some group =>
    rw [Option.getD_some, Option.bind_some]
    split
    · rfl
    · rename_i herrors
      rw [Sorted.configs_eq_nil (by simpa using herrors)]
      rfl

/-- The configs of an environment are all among the sorted ones, or none of them is and
errors are about the environment. -/
theorem SortedEnvironments.find?_configs_cases
    (configs : List Config) (environment : String) :
  ((((ofConfigs configs).configs.find? environment).getD []).Perm
        (configs.filter (fun c => c.environment = environment))
      ∧ (ofConfigs configs).errors.filter (fun e => e.environment.getD "" = environment) = [])
    ∨ configs.filter (fun c => c.environment = environment) ≠ []
      ∧ (ofConfigs configs).configs.find? environment = none
      ∧ (ofConfigs configs).errors.filter (fun e => e.environment.getD "" = environment) ≠ []
  := by
  rw [filter_errors, ← find?_byEnvironment, ofConfigs]
  simp only [Table.find?_filterMap]
  cases (byEnvironment configs).find? environment with
  | none => exact .inl ⟨.nil, rfl⟩
  | some group =>
    rw [Option.getD_some, Option.bind_some]
    rcases Sorted.ofConfigs_cases group environment with ⟨hperm, herrors⟩ | ⟨hne, herrors⟩
    · left
      rw [herrors]
      exact ⟨hperm, rfl⟩
    · right
      rw [if_neg (by simpa using herrors)]
      exact ⟨hne, rfl, herrors⟩

/-- Sorting reports nothing but cycles. -/
theorem SortedEnvironments.kind_of_mem_errors
    {configs : List Config} {e : DeployError} (he : e ∈ (ofConfigs configs).errors) :
  ∃ members, e.kind = .cycle members
  := by
  obtain ⟨⟨environment, group⟩, -, herror⟩ := List.mem_flatMap.mp he
  dsimp only at herror
  by_cases hcycle : HasCycle group
  · rw [Sorted.ofConfigs_of_hasCycle hcycle] at herror
    apply (Sorted.cycleErrors_spec hcycle environment).2 e herror
  · rw [Sorted.ofConfigs_of_not_hasCycle hcycle] at herror
    cases herror

end Rollout
