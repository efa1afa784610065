import Mathlib.Data.List.Nodup
import Mathlib.Data.List.Perm.Subperm
import Rollout.Order.Graph

/-!
# The placement of nodes

The order of a graph is built greedily: each node in it is the first one that may be
placed after the nodes in front of it, and at its end no node may be placed.  The
counters of a placement say how many dependencies each node still waits for, so that
the ready nodes are exactly those that may be placed.
-/

namespace Rollout

namespace Graph

/-- A node may be placed after a list of nodes: it is not among them, and it depends on
them alone. -/
structure MayFollow (g : Graph) (placed : List Nat) (node : Nat) : Prop where
  lt_size : node < g.size
  not_placed : node ∉ placed
  needs_placed : ∀ d ∈ g.needs node, d ∈ placed

/-- A list of nodes in which each is the first one that may follow those before it. -/
inductive IsGreedy (g : Graph) : List Nat → Prop where
  | nil : IsGreedy g []
  | snoc {placed : List Nat} {node : Nat} (greedy : IsGreedy g placed)
      (follows : g.MayFollow placed node)
      (first : ∀ i, g.MayFollow placed i → node ≤ i) : IsGreedy g (placed ++ [node])

namespace IsGreedy

variable {g : Graph} {placed : List Nat}

/-- The placed nodes depend on placed nodes alone. -/
theorem needs_placed
    (h : g.IsGreedy placed) {node : Nat} (hnode : node ∈ placed) :
  ∀ d ∈ g.needs node, d ∈ placed
  := by
  induction h with
  | nil => cases hnode
  | snoc _ follows _ ih =>
    intro d hd
    apply List.mem_append_left
    rcases List.mem_append.mp hnode with hnode | hnode
    · apply ih hnode d hd
    · obtain rfl := List.mem_singleton.mp hnode
      apply follows.needs_placed d hd

theorem lt_size
    (h : g.IsGreedy placed) {node : Nat} (hnode : node ∈ placed) :
  node < g.size
  := by
  induction h with
  | nil => cases hnode
  | snoc _ follows _ ih =>
    rcases List.mem_append.mp hnode with hnode | hnode
    · apply ih hnode
    · obtain rfl := List.mem_singleton.mp hnode
      apply follows.lt_size

theorem nodup (h : g.IsGreedy placed) :
  placed.Nodup
  := by
  induction h with
  | nil => apply List.nodup_nil
  | snoc _ follows _ ih =>
    rw [← List.concat_eq_append]
    apply List.Nodup.concat follows.not_placed ih

/-- As many placed nodes as there are nodes are all nodes. -/
theorem perm_range
    (h : g.IsGreedy placed) (hlength : g.size ≤ placed.length) :
  placed.Perm (List.range g.size)
  := by
  have hsub : placed ⊆ List.range g.size := fun _ hi => List.mem_range.mpr (h.lt_size hi)
  apply (List.subperm_of_subset h.nodup hsub).perm_of_length_le
  rw [List.length_range]
  apply hlength

/-- No node stands in front of one that it depends on. -/
theorem pairwise (h : g.IsGreedy placed) :
  placed.Pairwise (fun i j => j ∉ g.needs i)
  := by
  induction h with
  | nil => apply List.Pairwise.nil
  | snoc greedy follows _ ih =>
    apply List.pairwise_append.mpr
    use ih, List.pairwise_singleton _ _
    intro i hi j hj hneeds
    obtain rfl := List.mem_singleton.mp hj
    apply follows.not_placed (greedy.needs_placed hi _ hneeds)

end IsGreedy

end Graph

/-! ### The counters -/

namespace Graph

variable {g : Graph}

theorem mem_dependents {node i : Nat} :
  i ∈ g.dependents node ↔ i < g.size ∧ node ∈ g.needs i
  := by
  simp only [dependents, List.mem_flatMap, List.mem_range, List.mem_replicate, ne_eq,
    List.count_eq_zero, not_not]
  constructor
  · rintro ⟨j, hj, hneeds, rfl⟩
    exact ⟨hj, hneeds⟩
  · rintro ⟨hi, hneeds⟩
    exact ⟨i, hi, hneeds, rfl⟩

theorem count_flatMap_range
    (node i n : Nat) :
  ((List.range n).flatMap (fun j => List.replicate ((g.needs j).count node) j)).count i
    = if i < n then (g.needs i).count node else 0
  := by
  induction n with
  | zero => simp
  | succ n ih =>
    rw [List.range_succ, List.flatMap_append, List.count_append, ih, List.flatMap_singleton,
      List.count_replicate]
    by_cases hi : i = n
    · subst hi
      simp
    · have hlt : i < n + 1 ↔ i < n := by omega
      have hne : ¬ n = i := fun h => hi h.symm
      simp only [hlt, hne, beq_iff_eq, if_false, Nat.add_zero]

/-- A node is among those that depend on another as often as it depends on that one. -/
theorem count_dependents
    {i : Nat} (hi : i < g.size) (node : Nat) :
  (g.dependents node).count i = (g.needs i).count node
  := by
  rw [dependents, count_flatMap_range, if_pos hi]

end Graph

namespace Placement

/-- The counters of a placement agree with the graph when the nodes of `rest` are still to
be released: each node waits for its unplaced dependencies and for its releases, and the
ready nodes are the unplaced ones that wait for nothing. -/
structure Agrees (p : Placement) (g : Graph) (rest : List Nat) : Prop where
  length : p.waiting.length = g.size
  waiting : ∀ i, i < g.size →
    p.waiting.getD i 0 = (g.needs i).countP (· ∉ p.placed) + rest.count i
  ready : ∀ i, i ∈ p.ready ↔ i < g.size ∧ i ∉ p.placed ∧ p.waiting.getD i 0 = 0
  nodup : p.ready.Nodup

variable {p : Placement} {g : Graph}

/-- With nothing left to be released, the ready nodes are those that may be placed. -/
theorem Agrees.mem_ready
    (h : p.Agrees g []) {node : Nat} :
  node ∈ p.ready ↔ g.MayFollow p.placed node
  := by
  rw [h.ready]
  constructor
  · rintro ⟨hlt, hplaced, hwaiting⟩
    rw [h.waiting _ hlt, List.count_nil, Nat.add_zero, List.countP_eq_zero] at hwaiting
    exact ⟨hlt, hplaced, by simpa using hwaiting⟩
  · rintro ⟨hlt, hplaced, hneeds⟩
    use hlt, hplaced
    rw [h.waiting _ hlt, List.count_nil, Nat.add_zero, List.countP_eq_zero]
    simpa using hneeds

theorem agrees_unplaced (g : Graph) :
  g.unplaced.Agrees g []
  := by
  have hwaiting : ∀ i, i < g.size → g.unplaced.waiting.getD i 0 = (g.needs i).length := by
    intro i hi
    simp [Graph.unplaced, Graph.needs, List.getD_eq_getElem?_getD,
      List.getElem?_eq_getElem (show i < g.dependencies.length from hi)]
  constructor
  · simp [Graph.unplaced, Graph.size]
  · intro i hi
    rw [hwaiting i hi]
    simp [Graph.unplaced]
  · intro i
    have hready : i ∈ g.unplaced.ready ↔ i < g.size ∧ g.needs i = [] := by
      simp [Graph.unplaced]
    rw [hready]
    constructor
    · rintro ⟨hi, hneeds⟩
      use hi, List.not_mem_nil
      rw [hwaiting i hi, hneeds, List.length_nil]
    · rintro ⟨hi, -, hzero⟩
      use hi
      apply List.eq_nil_of_length_eq_zero
      rw [← hwaiting i hi]
      apply hzero
  · apply List.nodup_range.filter

/-- A release takes away one dependency that an unplaced node waits for. -/
theorem Agrees.release
    {node : Nat} {rest : List Nat} (h : p.Agrees g (node :: rest)) (hlt : node < g.size)
    (hplaced : node ∉ p.placed) :
  (p.release node).Agrees g rest
  := by
  have hnode := h.waiting node hlt
  rw [List.count_cons_self] at hnode
  have hget : ∀ i, (p.release node).waiting.getD i 0
      = if i = node then p.waiting.getD node 0 - 1 else p.waiting.getD i 0 := by
    intro i
    have hlength : node < p.waiting.length := by rw [h.length]; exact hlt
    simp only [Placement.release, List.getD_eq_getElem?_getD, List.getElem?_set]
    grind
  have hplaced' : (p.release node).placed = p.placed := rfl
  constructor
  · simp [Placement.release, h.length]
  · intro i hi
    rw [hget, hplaced']
    by_cases hin : i = node
    · rw [if_pos hin, hin]
      omega
    · rw [if_neg hin, h.waiting i hi, List.count_cons_of_ne (Ne.symm hin)]
  · intro i
    rw [hget, hplaced']
    have hready : i ∈ (p.release node).ready
        ↔ (i = node ∧ p.waiting.getD node 0 - 1 = 0) ∨ i ∈ p.ready := by
      simp only [Placement.release]
      split <;> simp_all
    rw [hready, h.ready]
    by_cases hin : i = node
    · subst hin
      rw [if_pos rfl]
      constructor
      · rintro (⟨-, hzero⟩ | ⟨-, -, hzero⟩)
        · exact ⟨hlt, hplaced, hzero⟩
        · omega
      · rintro ⟨-, -, hzero⟩
        exact .inl ⟨rfl, hzero⟩
    · rw [if_neg hin]
      simp [hin]
  · simp only [Placement.release]
    split
    · have hwaits : node ∉ p.ready := by
        rw [h.ready]
        rintro ⟨-, -, hzero⟩
        omega
      exact List.nodup_cons.mpr ⟨hwaits, h.nodup⟩
    · apply h.nodup

theorem Agrees.foldl_release
    {rest : List Nat} (h : p.Agrees g rest)
    (hrest : ∀ i ∈ rest, i < g.size ∧ i ∉ p.placed) :
  (rest.foldl Placement.release p).Agrees g []
  := by
  induction rest generalizing p with
  | nil => apply h
  | cons node rest ih =>
    obtain ⟨hlt, hplaced⟩ := hrest node List.mem_cons_self
    apply ih (h.release hlt hplaced)
    intro i hi
    apply hrest i (List.mem_cons_of_mem _ hi)

theorem placed_foldl_release (rest : List Nat) :
  (rest.foldl Placement.release p).placed = p.placed
  := by
  induction rest generalizing p with
  | nil => rfl
  | cons node rest ih => apply ih

@[simp]
theorem placed_place (p : Placement) (node : Nat) (dependents : List Nat) :
  (p.place node dependents).placed = p.placed ++ [node]
  := placed_foldl_release dependents

/-- Of the items outside a list, those that are not outside it with one more item are the
copies of that item. -/
theorem countP_notMem_concat
    {placed needs : List Nat} {node : Nat} (hnode : node ∉ placed) :
  needs.countP (· ∉ placed) = needs.countP (· ∉ placed ++ [node]) + needs.count node
  := by
  induction needs with
  | nil => rfl
  | cons d rest ih =>
    rw [List.countP_cons, List.countP_cons, List.count_cons, ih]
    by_cases hd : d = node
    · subst hd
      simp [hnode]
      omega
    · simp [hd]
      omega

/-- The counters still agree with the graph once a node that may be placed is placed. -/
theorem Agrees.place
    (h : p.Agrees g []) (hplaced : g.IsGreedy p.placed) {node : Nat} (hnode : node ∈ p.ready) :
  (p.place node (g.dependents node)).Agrees g []
  := by
  have hfollows := h.mem_ready.mp hnode
  apply Agrees.foldl_release
  · constructor
    · apply h.length
    · intro i hi
      rw [h.waiting i hi, Graph.count_dependents hi, List.count_nil, Nat.add_zero]
      apply countP_notMem_concat hfollows.not_placed
    · intro i
      rw [h.nodup.mem_erase_iff, h.ready]
      simp only [List.mem_append, List.mem_singleton, not_or]
      tauto
    · apply h.nodup.erase
  · intro i hi
    obtain ⟨hlt, hneeds⟩ := Graph.mem_dependents.mp hi
    use hlt
    intro hi
    apply hfollows.not_placed
    rcases List.mem_append.mp hi with hi | hi
    · apply hplaced.needs_placed hi _ hneeds
    · obtain rfl := List.mem_singleton.mp hi
      apply hfollows.needs_placed _ hneeds

end Placement

/-! ### The order -/

namespace Graph

variable {g : Graph}

/-- A greedy placement goes on greedily, and it stops only when no node may follow, unless
it runs out of steps. -/
theorem placeReady_spec
    (n : Nat) {p : Placement} (h : p.Agrees g []) (hplaced : g.IsGreedy p.placed) :
  g.IsGreedy (g.placeReady n p).placed
    ∧ ((∀ i, ¬ g.MayFollow (g.placeReady n p).placed i)
      ∨ (g.placeReady n p).placed.length = p.placed.length + n)
  := by
  induction n generalizing p with
  | zero => exact ⟨hplaced, .inr rfl⟩
  | succ n ih =>
    rw [placeReady]
    cases hmin : p.ready.min? with
    | none =>
      use hplaced
      left
      intro i hi
      rw [List.min?_eq_none_iff] at hmin
      have hready := h.mem_ready.mpr hi
      rw [hmin] at hready
      cases hready
    | some node =>
      have hleast := List.min?_eq_some_iff.mp hmin
      have hfirst : ∀ i, g.MayFollow p.placed i → node ≤ i :=
        fun i hi => hleast.2 i (h.mem_ready.mpr hi)
      have hnext := hplaced.snoc (h.mem_ready.mp hleast.1) hfirst
      rw [← Placement.placed_place p node (g.dependents node)] at hnext
      obtain ⟨hgreedy, hstop⟩ := ih (h.place hplaced hleast.1) hnext
      use hgreedy
      rcases hstop with hstop | hlength
      · left
        apply hstop
      · right
        rw [hlength, Placement.placed_place, List.length_append, List.length_singleton]
        omega

/-- The order of a graph is greedy. -/
theorem isGreedy_order (g : Graph) :
  g.IsGreedy g.order
  := (placeReady_spec g.size (Placement.agrees_unplaced g) .nil).1

/-- No node may be placed after the order of a graph. -/
theorem not_mayFollow_order (g : Graph) (node : Nat) :
  ¬ g.MayFollow g.order node
  := by
  rcases (placeReady_spec g.size (Placement.agrees_unplaced g) .nil).2 with hstop | hlength
  · apply hstop
  · intro hnode
    have hperm := (isGreedy_order g).perm_range (Nat.le_of_eq (hlength.trans (Nat.zero_add _)).symm)
    apply hnode.not_placed
    apply hperm.mem_iff.mpr
    apply List.mem_range.mpr hnode.lt_size

end Graph

end Rollout
