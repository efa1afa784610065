import Mathlib.Data.List.Lex
import Mathlib.Order.Bounds.Defs
import Rollout.Proofs.Order.Knots

/-!
# The least order of configs

Of all orders in which the configs can stand, the one that they are given is the least, their
positions being compared from the front.  So configs that are in order already keep it, and a
config is in front of all those that it does not wait for and that were given after it.
-/

namespace Rollout

open Relation

namespace Graph

variable {g : Graph} {configs : List Config} {placed : List Nat}

/-- Each node of a greedy list is the first one that may follow those in front of it. -/
theorem IsGreedy.isLeast_getElem
    (h : g.IsGreedy placed) {k : Nat} (hk : k < placed.length) :
  IsLeast {i | g.MayFollow (placed.take k) i} placed[k]
  := by
  induction h with
  | nil => cases hk
  | @snoc placed node _ follows first ih =>
    rw [List.length_append, List.length_singleton] at hk
    rw [List.take_append_of_le_length (Nat.le_of_lt_succ hk)]
    rcases Nat.lt_succ_iff_lt_or_eq.mp hk with hlt | rfl
    · rw [List.getElem_append_left hlt]
      apply ih hlt
    · rw [List.getElem_concat_length rfl, List.take_length]
      exact ⟨follows, first⟩

/-- A greedy list comes before all lists of its length in which each node may follow those
in front of it. -/
theorem IsGreedy.le
    (h : g.IsGreedy placed) {other : List Nat} (hlength : placed.length = other.length)
    (hother : ∀ k (hk : k < other.length), g.MayFollow (other.take k) other[k]) :
  placed ≤ other
  := by
  apply not_lt.mp
  intro hlt
  rcases List.lt_iff_exists.mp hlt with ⟨-, hshort⟩ | ⟨k, hk, hk', hsame, hless⟩
  · omega
  · -- In front of the first difference both lists have placed the same nodes.
    have htake : other.take k = placed.take k := by
      apply List.ext_getElem
      · simp [hlength]
      · intro j hj _
        rw [List.getElem_take, List.getElem_take]
        apply hsame j (List.length_take_le _ _ |>.trans_lt' hj)
    have hfollows := hother k hk
    rw [htake] at hfollows
    apply absurd ((h.isLeast_getElem hk').2 hfollows)
    omega

end Graph

/-! ### Other orders -/

namespace IsDependencyOrder

variable {configs : List Config} {positions : List Nat}

theorem nodup (h : IsDependencyOrder configs positions) :
  positions.Nodup
  := h.perm.nodup_iff.mpr List.nodup_range

theorem mem_iff
    (h : IsDependencyOrder configs positions) {i : Nat} :
  i ∈ positions ↔ i < configs.length
  := h.perm.mem_iff.trans List.mem_range

theorem length_eq (h : IsDependencyOrder configs positions) :
  positions.length = configs.length
  := by
  rw [h.perm.length_eq, List.length_range]

/-- What a config depends on through others comes before it. -/
theorem idxOf_lt_of_transGen
    (h : IsDependencyOrder configs positions) {i j : Nat} (hij : TransGen (Edge configs) i j) :
  positions.idxOf j < positions.idxOf i
  := by
  induction hij with
  | single hij => apply h.precedes _ _ hij
  | tail _ hjk ih => apply (h.precedes _ _ hjk).trans ih

/-- Configs that can be ordered have no cycle. -/
theorem not_hasCycle (h : IsDependencyOrder configs positions) :
  ¬ HasCycle configs
  := by
  rintro ⟨i, hi⟩
  apply Nat.lt_irrefl _ (h.idxOf_lt_of_transGen hi)

/-- Each config may follow those in front of it. -/
theorem mayFollow
    (h : IsDependencyOrder configs positions) {k : Nat} (hk : k < positions.length) :
  (Graph.ofConfigs configs).MayFollow (positions.take k) positions[k]
  := by
  have hindex := h.nodup.idxOf_getElem k hk
  constructor
  · rw [Graph.size_ofConfigs]
    apply h.mem_iff.mp (List.getElem_mem hk)
  · rw [List.mem_take_iff_idxOf_lt (List.getElem_mem hk), hindex]
    apply Nat.lt_irrefl
  · intro d hd
    have hedge := Graph.depends_ofConfigs.mp hd
    have hlt := Graph.isClosed_ofConfigs configs _ d hd
    rw [Graph.size_ofConfigs] at hlt
    have hmem := h.mem_iff.mpr hlt
    rw [List.mem_take_iff_idxOf_lt hmem, ← hindex]
    apply h.precedes _ _ hedge

/-- A config that is not placed may be placed, or it depends on one that may be. -/
theorem exists_mayFollow
    (h : IsDependencyOrder configs positions) {placed : List Nat} {i : Nat}
    (hi : i < configs.length) (hplaced : i ∉ placed) :
  ∃ m, ReflTransGen (Edge configs) i m ∧ (Graph.ofConfigs configs).MayFollow placed m
  := by
  -- By induction on the place of the config in the order.
  induction hrank : positions.idxOf i using Nat.strong_induction_on generalizing i with
  | h rank ih =>
    by_cases hneeds : ∀ d ∈ (Graph.ofConfigs configs).needs i, d ∈ placed
    · rw [← Graph.size_ofConfigs configs] at hi
      exact ⟨i, .refl, hi, hplaced, hneeds⟩
    · push Not at hneeds
      obtain ⟨d, hd, hout⟩ := hneeds
      have hedge := Graph.depends_ofConfigs.mp hd
      have hless := h.precedes _ _ hedge
      rw [hrank] at hless
      have hlt := (Graph.isClosed_ofConfigs configs) i d hd
      rw [Graph.size_ofConfigs] at hlt
      obtain ⟨m, hdm, hm⟩ := ih _ hless hlt hout rfl
      exact ⟨m, .head hedge hdm, hm⟩

end IsDependencyOrder

namespace Graph

variable {configs : List Config} {positions : List Nat}

/-- Of the orders in which configs can stand the order of their graph is the least. -/
theorem isLeast_order
    (h : IsDependencyOrder configs positions) :
  IsLeast {other | IsDependencyOrder configs other} (ofConfigs configs).order
  := by
  have horder := isDependencyOrder_order h.not_hasCycle
  use horder
  intro other hother
  apply (isGreedy_order _).le
  · rw [horder.length_eq, hother.length_eq]
  · intro k hk
    apply hother.mayFollow hk

/-- A config comes before those that are given after it if it depends on none that is. -/
theorem idxOf_order_lt
    (h : IsDependencyOrder configs positions) {i j : Nat} (hij : i < j)
    (hj : j < configs.length) (hdepends : ∀ d, TransGen (Edge configs) i d → d < j) :
  (ofConfigs configs).order.idxOf i < (ofConfigs configs).order.idxOf j
  := by
  have horder := isDependencyOrder_order h.not_hasCycle
  have hi := hij.trans hj
  have hlt := List.idxOf_lt_length_of_mem (horder.mem_iff.mpr hj)
  by_contra hlate
  rw [← List.mem_take_iff_idxOf_lt (horder.mem_iff.mpr hi)] at hlate
  obtain ⟨m, him, hm⟩ := h.exists_mayFollow hi hlate
  have hle := ((isGreedy_order _).isLeast_getElem hlt).2 hm
  rw [List.getElem_idxOf] at hle
  rcases reflTransGen_iff_eq_or_transGen.mp him with rfl | him
  · omega
  · have hless := hdepends m him
    omega

end Graph

/-! ### Configs in order -/

theorem idxOf_range
    {i n : Nat} (h : i < n) :
  (List.range n).idxOf i = i
  := by
  have hlt : i < (List.range n).length := by
    rw [List.length_range]
    apply h
  have hindex := List.nodup_range.idxOf_getElem i hlt
  rw [List.getElem_range] at hindex
  apply hindex

/-- The numbers in order come before all lists of as many different numbers. -/
theorem range_le
    {numbers : List Nat} (h : numbers.Nodup) :
  List.range numbers.length ≤ numbers
  := by
  apply not_lt.mp
  intro hlt
  rcases List.lt_iff_exists.mp hlt with ⟨-, hshort⟩ | ⟨k, hk, hk', hsame, hless⟩
  · rw [List.length_range] at hshort
    apply Nat.lt_irrefl _ hshort
  · -- The number that is less than its place stands at its own place as well.
    rw [List.getElem_range] at hless
    have hown := hsame numbers[k] hless
    rw [List.getElem_range] at hown
    apply Nat.ne_of_lt hless
    apply (h.getElem_inj_iff).mp hown

/-- Configs none of which depends on a later one are in order. -/
theorem isDependencyOrder_range
    {configs : List Config} (h : configs.Pairwise (fun c d => ¬ c.DependsOn d)) :
  IsDependencyOrder configs (List.range configs.length)
  := by
  constructor
  · apply List.Perm.refl
  · intro i j hij
    obtain ⟨c, d, hc, hd, hdepends⟩ := hij
    obtain ⟨hi, rfl⟩ := List.getElem?_eq_some_iff.mp hc
    obtain ⟨hj, rfl⟩ := List.getElem?_eq_some_iff.mp hd
    rw [idxOf_range hi, idxOf_range hj]
    by_contra hle
    rcases Nat.lt_or_eq_of_le (Nat.not_lt.mp hle) with hlt | rfl
    · apply List.pairwise_iff_getElem.mp h i j hi hj hlt hdepends
    · apply hdepends.2 rfl

namespace Sorted

variable {configs : List Config}

/-- Sorting leaves configs that are in order as they are. -/
theorem ofConfigs_of_isDependencyOrder_range
    (h : IsDependencyOrder configs (List.range configs.length)) (environment : String) :
  ofConfigs configs environment = ⟨configs, []⟩
  := by
  obtain ⟨horder, hleast⟩ := Graph.isLeast_order h
  have hrange := range_le horder.nodup
  rw [horder.length_eq] at hrange
  have heq := le_antisymm (hleast h) hrange
  rw [ofConfigs_of_not_hasCycle h.not_hasCycle, heq, pick_range]

/-- Configs that can be ordered are given the least order there is.  So those that are in
order keep it, as they do when they are sorted again, and a config that depends on none at
or behind a later one comes before that one. -/
theorem ofConfigs_least
    (h : ∃ positions, IsDependencyOrder configs positions) (environment : String) :
  ofConfigs configs environment = ⟨pick configs (Graph.ofConfigs configs).order, []⟩
    ∧ IsLeast {positions | IsDependencyOrder configs positions} (Graph.ofConfigs configs).order
    ∧ (IsDependencyOrder configs (List.range configs.length) →
        (ofConfigs configs environment).configs = configs)
    ∧ (∀ again, ofConfigs (ofConfigs configs environment).configs again
        = ⟨(ofConfigs configs environment).configs, []⟩)
    ∧ ∀ i j, i < j → j < configs.length → (∀ d, TransGen (Edge configs) i d → d < j) →
        (Graph.ofConfigs configs).order.idxOf i < (Graph.ofConfigs configs).order.idxOf j
  := by
  obtain ⟨positions, h⟩ := h
  use ofConfigs_of_not_hasCycle h.not_hasCycle environment, Graph.isLeast_order h
  constructor
  · intro hrange
    rw [ofConfigs_of_isDependencyOrder_range hrange]
  · constructor
    · intro again
      apply ofConfigs_of_isDependencyOrder_range
      apply isDependencyOrder_range
      apply (configs_of_not_hasCycle h.not_hasCycle environment).2
    · intro i j hij hj hdepends
      apply Graph.idxOf_order_lt h hij hj hdepends

end Sorted

namespace Sample

/-- A dashboard that shows the last one of three, and two that show none. -/
def displaying : List Config :=
  [showing "sales" ["stock"], showing "plant" [], showing "stock" []]

theorem order_displaying : (Graph.ofConfigs displaying).order = [1, 2, 0]
  := by
  decide +kernel

theorem isDependencyOrder_displaying : IsDependencyOrder displaying [1, 2, 0]
  := by
  have hremaining : (Graph.ofConfigs displaying).remaining = [] := by decide +kernel
  rw [← order_displaying]
  apply Graph.isDependencyOrder_order
  rw [← Graph.isCyclic_ofConfigs, Graph.isCyclic_iff (Graph.isClosed_ofConfigs displaying)]
  apply not_not.mpr hremaining

end Sample

/-- The three dashboards are sorted, and their order is the least of all. -/
theorem ofConfigs_least_displaying :
  (∃ positions, IsDependencyOrder Sample.displaying positions)
    ∧ IsLeast {positions | IsDependencyOrder Sample.displaying positions} [1, 2, 0]
  := by
  have hordered : ∃ positions, IsDependencyOrder Sample.displaying positions :=
    ⟨_, Sample.isDependencyOrder_displaying⟩
  obtain ⟨-, hleast, -⟩ := Sorted.ofConfigs_least hordered "test"
  rw [Sample.order_displaying] at hleast
  exact ⟨hordered, hleast⟩

end Rollout
