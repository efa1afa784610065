import Mathlib.Data.List.Pairwise
import Rollout.Order.Sort
import Rollout.Proofs.Order.Search

/-!
# The order of configs

The configs of an environment depend on each other through their references.  Sorting
gives all of them, each after those that it depends on, exactly if no config depends on
itself through others; otherwise it gives none of them and reports a loop.
-/

namespace Rollout

open Relation

/-- A config refers to another coordinate, at which the other config stands. -/
def Config.DependsOn (c d : Config) : Prop :=
  d.coordinate ∈ c.references ∧ d.coordinate ≠ c.coordinate

instance (c d : Config) : Decidable (c.DependsOn d) :=
  inferInstanceAs (Decidable (_ ∧ _))

/-- The config at a position depends on the config at another one. -/
def Edge (configs : List Config) (i j : Nat) : Prop :=
  ∃ c d, configs[i]? = some c ∧ configs[j]? = some d ∧ c.DependsOn d

/-- Some config depends on itself through others. -/
def HasCycle (configs : List Config) : Prop :=
  ∃ i, TransGen (Edge configs) i i

/-- An order of all positions in which each one comes after those that it has an edge to. -/
structure IsDependencyOrder (configs : List Config) (positions : List Nat) : Prop where
  perm : positions.Perm (List.range configs.length)
  precedes : ∀ i j, Edge configs i j → positions.idxOf j < positions.idxOf i

/-! ### The graph of a list of configs -/

namespace Graph

variable {configs : List Config}

@[simp]
theorem size_ofConfigs (configs : List Config) :
  (ofConfigs configs).size = configs.length
  := by
  simp [size, ofConfigs]

theorem mem_positionsOf {c : Coordinate} {j : Nat} :
  j ∈ positionsOf configs c ↔ ∃ d, configs[j]? = some d ∧ d.coordinate = c
  := by
  simp only [positionsOf, List.mem_filter, List.mem_range, beq_iff_eq, Option.map_eq_some_iff]
  constructor
  · rintro ⟨-, h⟩
    apply h
  · rintro ⟨d, hd, hc⟩
    obtain ⟨hlt, -⟩ := List.getElem?_eq_some_iff.mp hd
    exact ⟨hlt, d, hd, hc⟩

theorem needs_ofConfigs
    {i : Nat} {c : Config} (hc : configs[i]? = some c) :
  (ofConfigs configs).needs i = dependenciesOf configs i c
  := by
  simp [needs, ofConfigs, List.getD_eq_getElem?_getD, hc]

/-- The graph of a list of configs has the edges of the list. -/
theorem depends_ofConfigs {i j : Nat} :
  (ofConfigs configs).Depends i j ↔ Edge configs i j
  := by
  constructor
  · intro h
    have hlt : i < configs.length := by
      rw [← size_ofConfigs]
      apply h.lt_size
    rw [Depends, needs_ofConfigs (List.getElem?_eq_getElem hlt)] at h
    simp only [dependenciesOf, Template.mem_distinct, List.mem_filter, List.mem_flatMap,
      mem_positionsOf, decide_eq_true_eq] at h
    obtain ⟨⟨t, ⟨ht, hne⟩, d, hd, rfl⟩, -⟩ := h
    exact ⟨_, d, List.getElem?_eq_getElem hlt, hd, ht, hne⟩
  · rintro ⟨c, d, hc, hd, hmem, hne⟩
    rw [Depends, needs_ofConfigs hc]
    simp only [dependenciesOf, Template.mem_distinct, List.mem_filter, List.mem_flatMap,
      mem_positionsOf, decide_eq_true_eq]
    constructor
    · exact ⟨d.coordinate, ⟨hmem, hne⟩, d, hd, rfl⟩
    · rintro rfl
      rw [hc] at hd
      cases hd
      apply hne rfl

theorem isClosed_ofConfigs (configs : List Config) :
  (ofConfigs configs).IsClosed
  := by
  intro i d hd
  obtain ⟨-, _, -, h, -⟩ := depends_ofConfigs.mp hd
  rw [size_ofConfigs]
  apply (List.getElem?_eq_some_iff.mp h).1

theorem isCyclic_ofConfigs :
  (ofConfigs configs).IsCyclic ↔ HasCycle configs
  := by
  have h : (ofConfigs configs).Depends = Edge configs := by
    funext i j
    apply propext depends_ofConfigs
  rw [IsCyclic, h, HasCycle]

/-- In a greedy list a node comes after those that it depends on. -/
theorem IsGreedy.idxOf_lt
    {g : Graph} {placed : List Nat} (h : g.IsGreedy placed) {i j : Nat} (hi : i ∈ placed)
    (hij : g.Depends i j) :
  placed.idxOf j < placed.idxOf i
  := by
  have hj := h.needs_placed hi j hij
  rcases Nat.lt_trichotomy (placed.idxOf j) (placed.idxOf i) with hlt | heq | hgt
  · apply hlt
  · obtain rfl := (List.idxOf_inj hj).mp heq
    exact absurd (.single hij) (h.not_transGen_self hi)
  · have hpair := List.pairwise_iff_getElem.mp h.pairwise _ _ (List.idxOf_lt_length_of_mem hi)
      (List.idxOf_lt_length_of_mem hj) hgt
    rw [List.getElem_idxOf, List.getElem_idxOf] at hpair
    exact absurd hij hpair

/-- The order of the graph of configs without loops is an order of their positions. -/
theorem isDependencyOrder_order
    (h : ¬ HasCycle configs) :
  IsDependencyOrder configs (ofConfigs configs).order
  := by
  have hperm := order_perm_range (isClosed_ofConfigs configs) (isCyclic_ofConfigs.not.mpr h)
  constructor
  · rw [size_ofConfigs] at hperm
    apply hperm
  · intro i j hij
    have hdepends := depends_ofConfigs.mpr hij
    apply (isGreedy_order _).idxOf_lt _ hdepends
    apply hperm.mem_iff.mpr
    apply List.mem_range.mpr hdepends.lt_size

end Graph

/-! ### Picking configs by their positions -/

theorem pick_range
    {α : Type} (items : List α) :
  pick items (List.range items.length) = items
  := by
  induction items using List.reverseRecOn with
  | nil => rfl
  | append_singleton items x ih =>
    rw [pick] at ih ⊢
    rw [List.length_append, List.length_singleton, List.range_succ, List.filterMap_append]
    have hrange : ∀ i ∈ List.range items.length, (items ++ [x])[i]? = items[i]? := by
      intro i hi
      apply List.getElem?_append_left (List.mem_range.mp hi)
    rw [List.filterMap_congr hrange, ih]
    simp

/-- Picking all positions in some order gives the items in some order. -/
theorem pick_perm
    {α : Type} {items : List α} {positions : List Nat}
    (h : positions.Perm (List.range items.length)) :
  (pick items positions).Perm items
  := by
  have hpick := h.filterMap (items[·]?)
  rw [← pick, ← pick, pick_range] at hpick
  apply hpick

namespace Sorted

variable {configs : List Config}

/-- Configs without loops are sorted by the order of their graph. -/
theorem ofConfigs_of_not_hasCycle
    (h : ¬ HasCycle configs) (environment : String) :
  ofConfigs configs environment = ⟨pick configs (Graph.ofConfigs configs).order, []⟩
  := by
  have hlength := (Graph.isDependencyOrder_order h).perm.length_eq
  rw [List.length_range] at hlength
  rw [ofConfigs, if_neg (by omega)]

/-- Configs with a loop are not sorted, and the loops are reported. -/
theorem ofConfigs_of_hasCycle
    (h : HasCycle configs) (environment : String) :
  ofConfigs configs environment
    = ⟨[], cycleErrors configs (Graph.ofConfigs configs) environment⟩
  := by
  have hremaining := (Graph.isCyclic_iff (Graph.isClosed_ofConfigs configs)).mp
    (Graph.isCyclic_ofConfigs.mpr h)
  obtain ⟨i, hi⟩ := List.exists_mem_of_ne_nil _ hremaining
  obtain ⟨hlt, horder⟩ := Graph.mem_remaining.mp hi
  rw [ofConfigs, if_pos]
  by_contra hlength
  have hsize : (Graph.ofConfigs configs).size ≤ (Graph.ofConfigs configs).order.length := by
    rw [Graph.size_ofConfigs]
    omega
  apply horder
  apply ((Graph.isGreedy_order _).perm_range hsize).mem_iff.mpr
  apply List.mem_range.mpr hlt

/-- A loop leads to an error, and every error names a loop. -/
theorem cycleErrors_spec
    (h : HasCycle configs) (environment : String) :
  cycleErrors configs (Graph.ofConfigs configs) environment ≠ []
    ∧ ∀ e ∈ cycleErrors configs (Graph.ofConfigs configs) environment,
        ∃ members, e.kind = .cycle members
  := by
  have hloops := Graph.loops_ne_nil (Graph.isClosed_ofConfigs configs)
    ((Graph.isCyclic_iff (Graph.isClosed_ofConfigs configs)).mp
      (Graph.isCyclic_ofConfigs.mpr h))
  constructor
  · intro hnil
    apply hloops
    apply List.map_eq_nil_iff.mp hnil
  · intro e he
    obtain ⟨members, -, rfl⟩ := List.mem_map.mp he
    exact ⟨_, rfl⟩

/-- The sorted configs are the given ones, and none of them depends on a later one. -/
theorem configs_of_not_hasCycle
    (h : ¬ HasCycle configs) (environment : String) :
  (ofConfigs configs environment).configs.Perm configs
    ∧ (ofConfigs configs environment).configs.Pairwise (fun c d => ¬ c.DependsOn d)
  := by
  rw [ofConfigs_of_not_hasCycle h]
  constructor
  · apply pick_perm (Graph.isDependencyOrder_order h).perm
  · apply List.pairwise_filterMap.mpr
    apply (Graph.isGreedy_order _).pairwise.imp
    intro i j hij c hc d hd hdepends
    apply hij
    apply Graph.depends_ofConfigs.mpr
    exact ⟨c, d, hc, hd, hdepends⟩

/-- Sorting gives a permutation of the configs, each of them after those that it has an
edge to, and no errors, exactly if the edges have no cycle; if they have one, it gives no
configs and at least one error, and every error names a cycle. -/
theorem ofConfigs_sorts_iff
    (configs : List Config) (environment : String) :
  (¬ HasCycle configs
      ↔ ∃ positions, IsDependencyOrder configs positions
          ∧ (ofConfigs configs environment).configs = pick configs positions
          ∧ (ofConfigs configs environment).configs.Perm configs
          ∧ (ofConfigs configs environment).errors = [])
    ∧ (HasCycle configs
      ↔ (ofConfigs configs environment).configs = []
          ∧ (ofConfigs configs environment).errors ≠ []
          ∧ ∀ e ∈ (ofConfigs configs environment).errors, ∃ members, e.kind = .cycle members)
  := by
  by_cases h : HasCycle configs
  · obtain ⟨herrors, hkinds⟩ := cycleErrors_spec h environment
    rw [ofConfigs_of_hasCycle h]
    constructor
    · constructor
      · intro hno
        apply absurd h hno
      · rintro ⟨-, -, -, -, hnil⟩
        apply absurd hnil herrors
    · constructor
      · intro _
        exact ⟨rfl, herrors, hkinds⟩
      · intro _
        apply h
  · have hperm := (configs_of_not_hasCycle h environment).1
    rw [ofConfigs_of_not_hasCycle h] at hperm ⊢
    constructor
    · constructor
      · intro _
        exact ⟨_, Graph.isDependencyOrder_order h, rfl, hperm, rfl⟩
      · intro _
        apply h
    · constructor
      · intro hcycle
        apply absurd hcycle h
      · rintro ⟨-, herrors, -⟩
        apply absurd rfl herrors

end Sorted

end Rollout
