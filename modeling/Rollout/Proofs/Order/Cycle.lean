import Mathlib.Data.List.Chain
import Mathlib.Logic.Relation
import Rollout.Proofs.Order.Placement

/-!
# Loops

The nodes that are left out of the order of a graph depend on each other in loops.  A
walk along the first dependencies that are left out never comes to an end of its own, so
it comes back to a node that it has been to or runs into an earlier walk.
-/

namespace Rollout.Graph

open Relation

variable {g : Graph}

/-- A node depends on another. -/
def Depends (g : Graph) (i j : Nat) : Prop :=
  j ∈ g.needs i

/-- Only a node of the graph depends on something. -/
theorem Depends.lt_size
    {i j : Nat} (h : g.Depends i j) :
  i < g.size
  := by
  by_contra hlt
  rw [Depends, needs, List.getD_eq_getElem?_getD,
    List.getElem?_eq_none (Nat.le_of_not_lt hlt)] at h
  cases h

/-- Every node depends on nodes of the graph alone. -/
def IsClosed (g : Graph) : Prop :=
  ∀ i, ∀ d ∈ g.needs i, d < g.size

/-- Some node depends on itself, if only through others. -/
def IsCyclic (g : Graph) : Prop :=
  ∃ i, TransGen g.Depends i i

/-! ### The nodes that are left out -/

theorem mem_remaining {i : Nat} :
  i ∈ g.remaining ↔ i < g.size ∧ i ∉ g.order
  := by
  simp [remaining]

/-- What is followed from a node is one of its dependencies that is left out. -/
theorem step?_spec
    {i d : Nat} (h : g.step? i = some d) :
  g.Depends i d ∧ d ∈ g.remaining
  := by
  constructor
  · apply List.mem_of_find?_eq_some h
  · simpa using List.find?_some h

/-- A node that is left out depends on another one that is. -/
theorem exists_step?
    (hg : g.IsClosed) {i : Nat} (hi : i ∈ g.remaining) :
  ∃ d, g.step? i = some d
  := by
  obtain ⟨hlt, horder⟩ := mem_remaining.mp hi
  apply Option.isSome_iff_exists.mp
  rw [step?, List.find?_isSome]
  by_contra hnone
  apply not_mayFollow_order g i
  use hlt, horder
  intro d hd
  by_contra hplaced
  apply hnone
  use d, hd
  rw [List.contains_iff_mem, mem_remaining]
  use hg i d hd, hplaced

namespace IsGreedy

/-- What a placed node depends on, if only through others, is placed. -/
theorem transGen_placed
    {placed : List Nat} (h : g.IsGreedy placed) {i j : Nat} (hi : i ∈ placed)
    (hij : TransGen g.Depends i j) :
  j ∈ placed
  := by
  induction hij with
  | single hij => apply h.needs_placed hi _ hij
  | tail _ hjk ih => apply h.needs_placed ih _ hjk

/-- A placed node does not depend on itself, not even through others. -/
theorem not_transGen_self
    {placed : List Nat} (h : g.IsGreedy placed) {i : Nat} (hi : i ∈ placed) :
  ¬ TransGen g.Depends i i
  := by
  induction h with
  | nil => cases hi
  | snoc greedy follows _ ih =>
    rcases List.mem_append.mp hi with hi | hi
    · apply ih hi
    · obtain rfl := List.mem_singleton.mp hi
      intro hcycle
      apply follows.not_placed
      obtain ⟨d, hd, hdi⟩ := (TransGen.head'_iff).mp hcycle
      rcases ReflTransGen.cases_head hdi with rfl | ⟨e, he, hei⟩
      · apply follows.needs_placed _ hd
      · apply greedy.transGen_placed (follows.needs_placed _ hd)
        apply TransGen.head'_iff.mpr
        use e, he, hei

end IsGreedy

/-! ### Walks -/

/-- A walk along first dependencies that are left out, up to the node that it goes on to,
through nodes that are new to it. -/
structure Trail (g : Graph) (visited path : List Nat) (node : Nat) : Prop where
  remaining : ∀ i ∈ path ++ [node], i ∈ g.remaining
  nodup : path.Nodup
  unvisited : ∀ i ∈ path, i ∉ visited
  steps : (path ++ [node]).IsChain (fun i j => g.step? i = some j)

namespace Trail

variable {visited path : List Nat} {node : Nat}

/-- The walk that has not left its first node. -/
theorem start
    (visited : List Nat) (hnode : node ∈ g.remaining) :
  g.Trail visited [] node
  := by
  constructor
  · simpa using hnode
  · apply List.nodup_nil
  · intro i hi
    cases hi
  · apply List.isChain_singleton

theorem length_le (h : g.Trail visited path node) :
  path.length ≤ g.size
  := by
  have hsub : path ⊆ List.range g.size := by
    intro i hi
    apply List.mem_range.mpr
    apply (mem_remaining.mp (h.remaining i (List.mem_append_left _ hi))).1
  simpa using (List.subperm_of_subset h.nodup hsub).length_le

/-- A walk goes on from a node that is new to it. -/
theorem step
    (h : g.Trail visited path node) (hpath : node ∉ path) (hvisited : node ∉ visited) {next : Nat}
    (hnext : g.step? node = some next) :
  g.Trail visited (path ++ [node]) next
  := by
  constructor
  · intro i hi
    rcases List.mem_append.mp hi with hi | hi
    · apply h.remaining i hi
    · obtain rfl := List.mem_singleton.mp hi
      apply (step?_spec hnext).2
  · rw [← List.concat_eq_append]
    apply List.Nodup.concat hpath h.nodup
  · intro i hi
    rcases List.mem_append.mp hi with hi | hi
    · apply h.unvisited i hi
    · obtain rfl := List.mem_singleton.mp hi
      apply hvisited
  · apply List.isChain_append.mpr
    use h.steps, List.isChain_singleton _
    simpa using hnext

end Trail

/-- With enough steps left, a walk ends in front of a node that it has been to or that was
visited before. -/
theorem walk_spec
    (hg : g.IsClosed) {visited : List Nat} (more : Nat) {path : List Nat} {node : Nat}
    (h : g.Trail visited path node) (hmore : g.size < path.length + more) :
  ∃ path' node', g.walk visited more path node = (path', some node')
    ∧ g.Trail visited path' node' ∧ (node' ∈ path' ∨ node' ∈ visited)
  := by
  induction more generalizing path node with
  | zero => exact absurd h.length_le (Nat.not_le.mpr hmore)
  | succ more ih =>
    rw [walk]
    by_cases hend : node ∈ path ∨ node ∈ visited
    · rw [if_pos (by simpa using hend)]
      exact ⟨path, node, rfl, h, hend⟩
    · rw [if_neg (by simpa using hend)]
      obtain ⟨hpath, hvisited⟩ := not_or.mp hend
      have hnode := h.remaining node (List.mem_append_right _ (List.mem_singleton_self node))
      obtain ⟨next, hnext⟩ := exists_step? hg hnode
      simp only [hnext]
      apply ih (h.step hpath hvisited hnext)
      rw [List.length_append, List.length_singleton]
      omega

/-- A walk goes through the nodes that it has been to. -/
theorem mem_walk
    (g : Graph) (visited : List Nat) (more : Nat) {path : List Nat} (node : Nat) {i : Nat}
    (hi : i ∈ path) :
  i ∈ (g.walk visited more path node).1
  := by
  induction more generalizing path node with
  | zero => apply hi
  | succ more ih =>
    rw [walk]
    split
    · apply hi
    · split
      · apply List.mem_append_left _ hi
      · apply ih _ (List.mem_append_left _ hi)

/-- A walk goes through the node that it begins with, if that was not visited before. -/
theorem start_mem_walk
    (g : Graph) {visited : List Nat} (more : Nat) {start : Nat} (hstart : start ∉ visited) :
  start ∈ (g.walk visited (more + 1) [] start).1
  := by
  rw [walk, if_neg (by simpa using hstart)]
  split
  · apply List.mem_singleton_self
  · apply mem_walk _ _ _ _ (List.mem_singleton_self start)

/-! ### Loops -/

/-- A list of nodes each of which depends on the next one, and the last one on the first. -/
inductive IsLoop (g : Graph) : List Nat → Prop where
  | intro {node : Nat} {rest : List Nat}
      (steps : (node :: rest ++ [node]).IsChain g.Depends) : IsLoop g (node :: rest)

/-- A loop makes a graph cyclic. -/
theorem IsLoop.isCyclic
    {loop : List Nat} (h : g.IsLoop loop) :
  g.IsCyclic
  := by
  obtain ⟨steps⟩ := h
  rename_i node rest
  use node
  cases rest with
  | nil => exact .single (List.isChain_pair.mp steps)
  | cons next rest =>
    obtain ⟨hnext, hrest⟩ := List.isChain_cons_cons.mp steps
    apply TransGen.head' hnext
    apply List.relationReflTransGen_of_exists_isChain_cons _ hrest
    simp

theorem exists_dropWhile_ne
    {path : List Nat} {node : Nat} (hnode : node ∈ path) :
  ∃ before rest, path = before ++ node :: rest ∧ path.dropWhile (· ≠ node) = node :: rest
  := by
  induction path with
  | nil => cases hnode
  | cons i path ih =>
    by_cases hi : i = node
    · use [], path
      simp [hi]
    · have hpath := (List.mem_cons.mp hnode).resolve_left (Ne.symm hi)
      obtain ⟨before, rest, rfl, hdrop⟩ := ih hpath
      use i :: before, rest
      rw [List.dropWhile_cons_of_pos (by simpa using hi), hdrop]
      exact ⟨rfl, rfl⟩

/-- The search from a node that was not visited goes along a walk, and on from the nodes
that follow. -/
theorem loopsFrom_cons
    (hg : g.IsClosed) {visited : List Nat} (looped : List Nat) {start : Nat} (rest : List Nat)
    (hstart : start ∈ g.remaining) (hvisited : start ∉ visited) :
  ∃ path node, g.Trail visited path node ∧ start ∈ path ∧ (node ∈ path ∨ node ∈ visited)
    ∧ g.loopsFrom visited looped (start :: rest)
      = match loop? looped (path, some node) with
        | none => g.loopsFrom (visited ++ path) looped rest
        | some loop => loop :: g.loopsFrom (visited ++ path) (looped ++ loop) rest
  := by
  obtain ⟨path, node, hwalk, htrail, hend⟩ :=
    walk_spec hg (g.size + 1) (Trail.start visited hstart) (by simp)
  have hpath := g.start_mem_walk g.size hvisited
  rw [hwalk] at hpath
  use path, node, htrail, hpath, hend
  rw [loopsFrom, if_neg (by simpa using hvisited)]
  cases hloop : loop? looped (path, some node) with
  | none => simp only [hwalk, hloop]
  | some loop => simp only [hwalk, hloop]

end Rollout.Graph
