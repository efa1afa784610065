import Rollout.Proofs.Order.Cycle

/-!
# The search for loops

From a node that is left out of the order the search goes on to the first of its
dependencies that is left out too.  Where it goes on to depends on the node alone, so it
comes back to a node exactly if the node is on a round of such steps, and no node is on two
rounds.  The search reports every round, each of them once, and nothing else.  So the graph
has a loop exactly if some node is left out, and then the search finds one.
-/

namespace Rollout.Graph

open Relation

variable {g : Graph} {i j k : Nat}

/-- The search goes on from a node to the first of its dependencies that is left out. -/
def LeadsTo (g : Graph) (i j : Nat) : Prop :=
  g.step? i = some j

/-- The search goes on to one node only. -/
theorem LeadsTo.unique
    (hj : g.LeadsTo i j) (hk : g.LeadsTo i k) :
  j = k
  := Option.some.inj (hj.symm.trans hk)

/-- The search comes back to a node that it has been to. -/
def Recurs (g : Graph) (i : Nat) : Prop :=
  TransGen g.LeadsTo i i

/-- From a node that the search comes back to it leads nowhere but where it comes back from. -/
theorem Recurs.back
    (h : g.Recurs i) (hij : ReflTransGen g.LeadsTo i j) :
  ReflTransGen g.LeadsTo j i
  := by
  induction hij with
  | refl => apply ReflTransGen.refl
  | tail _ hjk ih =>
    rcases ReflTransGen.cases_head ih with rfl | ⟨m, hjm, hmi⟩
    · obtain ⟨m, him, hmi⟩ := TransGen.head'_iff.mp h
      rw [hjk.unique him]
      apply hmi
    · rw [hjk.unique hjm]
      apply hmi

/-- The search does not lead out of a list of nodes. -/
def IsTrap (g : Graph) (nodes : List Nat) : Prop :=
  ∀ i ∈ nodes, ∀ j, g.LeadsTo i j → j ∈ nodes

theorem IsTrap.mem_of_reflTransGen
    {nodes : List Nat} (h : g.IsTrap nodes) (hi : i ∈ nodes)
    (hij : ReflTransGen g.LeadsTo i j) :
  j ∈ nodes
  := by
  induction hij with
  | refl => apply hi
  | tail _ hjk ih => apply h _ ih _ hjk

/-! ### Rounds -/

theorem exists_next_of_isChain
    {R : Nat → Nat → Prop} {nodes : List Nat} (h : (nodes ++ [k]).IsChain R) (hi : i ∈ nodes) :
  ∃ j ∈ nodes ++ [k], R i j
  := by
  obtain ⟨before, after, rfl⟩ := List.append_of_mem hi
  rw [List.append_assoc, List.cons_append] at h
  obtain ⟨j, rest, hrest⟩ := List.exists_cons_of_ne_nil (List.concat_ne_nil k after)
  rw [hrest] at h
  use j
  constructor
  · rw [List.append_assoc, List.cons_append, hrest]
    simp
  · apply (List.isChain_append_cons_cons.mp h).2.1

theorem exists_previous_of_isChain
    {R : Nat → Nat → Prop} {nodes : List Nat} (h : (k :: nodes).IsChain R) (hi : i ∈ nodes) :
  ∃ j ∈ k :: nodes, R j i
  := by
  induction nodes generalizing k with
  | nil => cases hi
  | cons j nodes ih =>
    obtain ⟨hkj, hrest⟩ := List.isChain_cons_cons.mp h
    rcases List.mem_cons.mp hi with rfl | hi
    · use k, List.mem_cons_self, hkj
    · obtain ⟨m, hm, hmi⟩ := ih hrest hi
      use m, List.mem_cons_of_mem k hm, hmi

/-- A round of the search: different nodes each of which leads to the next one, and the last
one to the first. -/
inductive IsRound (g : Graph) : List Nat → Prop where
  | intro {node : Nat} {rest : List Nat} (nodup : (node :: rest).Nodup)
      (steps : (node :: rest ++ [node]).IsChain g.LeadsTo) : IsRound g (node :: rest)

namespace IsRound

variable {round : List Nat}

theorem isLoop (h : g.IsRound round) :
  g.IsLoop round
  := by
  obtain ⟨-, steps⟩ := h
  constructor
  apply steps.imp
  intro i j hij
  apply (step?_spec hij).1

/-- Every node of a round leads to a node of it. -/
theorem exists_next
    (h : g.IsRound round) (hi : i ∈ round) :
  ∃ j ∈ round, g.LeadsTo i j
  := by
  obtain ⟨-, steps⟩ := h
  obtain ⟨j, hj, hij⟩ := exists_next_of_isChain steps hi
  use j
  constructor
  · grind
  · apply hij

/-- Every node of a round is one that a node of it leads to. -/
theorem exists_previous
    (h : g.IsRound round) (hi : i ∈ round) :
  ∃ j ∈ round, g.LeadsTo j i
  := by
  obtain ⟨-, steps⟩ := h
  rename_i node rest
  rw [List.cons_append] at steps
  have hi' : i ∈ rest ++ [node] := by grind
  obtain ⟨j, hj, hji⟩ := exists_previous_of_isChain steps hi'
  use j
  constructor
  · grind
  · apply hji

theorem isTrap (h : g.IsRound round) :
  g.IsTrap round
  := by
  intro i hi j hij
  obtain ⟨k, hk, hik⟩ := h.exists_next hi
  rw [hij.unique hik]
  apply hk

/-- The search leads from each node of a round to each other one. -/
theorem reflTransGen
    (h : g.IsRound round) (hi : i ∈ round) (hj : j ∈ round) :
  ReflTransGen g.LeadsTo i j
  := by
  obtain ⟨-, steps⟩ := h
  rename_i node rest
  have hto : ReflTransGen g.LeadsTo i node := by
    apply steps.backwards_concat_induction (ReflTransGen g.LeadsTo · node)
    · intro k l hkl hl
      apply ReflTransGen.head hkl hl
    · apply ReflTransGen.refl
    · apply hi
  have hfrom : ReflTransGen g.LeadsTo node j := by
    rcases List.mem_cons.mp hj with rfl | hj
    · apply ReflTransGen.refl
    · apply steps.cons_induction (ReflTransGen g.LeadsTo node ·)
      · intro k l hkl hk
        apply ReflTransGen.tail hk hkl
      · apply ReflTransGen.refl
      · apply List.mem_append_left _ hj
  apply hto.trans hfrom

theorem recurs
    (h : g.IsRound round) (hi : i ∈ round) :
  g.Recurs i
  := by
  obtain ⟨j, hj, hij⟩ := h.exists_next hi
  apply TransGen.head' hij (h.reflTransGen hj hi)

end IsRound

/-! ### Walks -/

namespace Trail

variable {visited path : List Nat} {node : Nat}

theorem exists_next
    (h : g.Trail visited path node) (hi : i ∈ path) :
  ∃ j ∈ path ++ [node], g.LeadsTo i j
  := exists_next_of_isChain h.steps hi

/-- A walk leads from each of its nodes to the one that it goes on to. -/
theorem reflTransGen
    (h : g.Trail visited path node) (hi : i ∈ path) :
  ReflTransGen g.LeadsTo i node
  := by
  have steps : (path ++ [node]).IsChain g.LeadsTo := h.steps
  apply steps.backwards_concat_induction (ReflTransGen g.LeadsTo · node)
  · intro k l hkl hl
    apply ReflTransGen.head hkl hl
  · apply ReflTransGen.refl
  · apply hi

/-- A walk that comes back to a node that it has been to has gone around a round. -/
theorem isRound
    (h : g.Trail visited path node) (hnode : node ∈ path) :
  g.IsRound (path.dropWhile (· ≠ node))
  := by
  obtain ⟨before, rest, rfl, hdrop⟩ := exists_dropWhile_ne hnode
  have hsteps := h.steps
  rw [List.append_assoc, List.cons_append] at hsteps
  rw [hdrop]
  constructor
  · apply (List.nodup_append.mp h.nodup).2.1
  · apply hsteps.right_of_append

end Trail

/-- The search from a node that is left out comes to one that it comes back to. -/
theorem exists_recurs
    (hg : g.IsClosed) (hi : i ∈ g.remaining) :
  ∃ j, ReflTransGen g.LeadsTo i j ∧ g.Recurs j
  := by
  obtain ⟨path, node, hwalk, htrail, hend⟩ :=
    walk_spec hg (g.size + 1) (Trail.start [] hi) (by simp)
  have hpath := g.start_mem_walk g.size (List.not_mem_nil (a := i))
  rw [hwalk] at hpath
  have hnode : node ∈ path := hend.resolve_right List.not_mem_nil
  have hround := htrail.isRound hnode
  use node, htrail.reflTransGen hpath
  apply hround.recurs
  obtain ⟨before, rest, -, hdrop⟩ := exists_dropWhile_ne hnode
  rw [hdrop]
  apply List.mem_cons_self

theorem LeadsTo.depends
    (h : g.LeadsTo i j) :
  g.Depends i j
  := (step?_spec h).1

/-- A node is left out of the order exactly if it leads to a loop, if only through others. -/
theorem mem_remaining_iff (hg : g.IsClosed) :
  i ∈ g.remaining ↔ ∃ j, ReflTransGen g.Depends i j ∧ TransGen g.Depends j j
  := by
  constructor
  · intro hi
    obtain ⟨j, hij, hj⟩ := exists_recurs hg hi
    use j
    constructor
    · apply ReflTransGen.mono _ _ _ hij
      intro k l hkl
      apply hkl.depends
    · apply TransGen.mono _ _ _ hj
      intro k l hkl
      apply hkl.depends
  · rintro ⟨j, hij, hj⟩
    have hi : i < g.size := by
      rcases ReflTransGen.cases_head hij with rfl | ⟨k, hik, -⟩
      · obtain ⟨k, hik, -⟩ := TransGen.head'_iff.mp hj
        apply hik.lt_size
      · apply hik.lt_size
    apply mem_remaining.mpr
    use hi
    intro horder
    have hgreedy := isGreedy_order g
    rcases reflTransGen_iff_eq_or_transGen.mp hij with rfl | hij
    · apply hgreedy.not_transGen_self horder hj
    · apply hgreedy.not_transGen_self (hgreedy.transGen_placed horder hij) hj

/-- The end of a walk does not depend on how many more steps it may take. -/
theorem walk_of_le
    {visited path path' : List Nat} {more more' node node' : Nat}
    (h : g.walk visited more path node = (path', some node')) (hmore : more ≤ more') :
  g.walk visited more' path node = (path', some node')
  := by
  induction more generalizing more' path node with
  | zero => cases h
  | succ more ih =>
    obtain ⟨more', rfl⟩ : ∃ n, more' = n + 1 := ⟨more' - 1, by omega⟩
    rw [walk] at h ⊢
    split at h
    · rename_i hend
      rw [if_pos hend]
      apply h
    · rename_i hend
      rw [if_neg hend]
      cases hstep : g.step? node with
      | none =>
        rw [hstep] at h
        cases h
      | some next =>
        rw [hstep] at h
        apply ih h (Nat.le_of_succ_le_succ hmore)

/-! ### The search -/

/-- What holds once the search has visited some nodes: it does not lead out of them, and the
rounds among them are known. -/
structure Searched (g : Graph) (visited looped : List Nat) : Prop where
  isTrap : g.IsTrap visited
  known : ∀ i ∈ looped, i ∈ visited
  recurs : ∀ i ∈ visited, g.Recurs i → i ∈ looped

theorem searched_nil (g : Graph) :
  g.Searched [] []
  := by
  constructor
  · intro i hi
    cases hi
  · intro i hi
    cases hi
  · intro i hi
    cases hi

/-- The search does not lead out of the nodes that have been visited when a walk is over. -/
theorem Searched.isTrap_append
    {visited looped path : List Nat} {node : Nat} (h : g.Searched visited looped)
    (htrail : g.Trail visited path node) (hend : node ∈ path ∨ node ∈ visited) :
  g.IsTrap (visited ++ path)
  := by
  intro i hi j hij
  rcases List.mem_append.mp hi with hi | hi
  · apply List.mem_append_left _ (h.isTrap i hi j hij)
  · obtain ⟨next, hnext, hstep⟩ := htrail.exists_next hi
    rw [hij.unique hstep]
    rcases List.mem_append.mp hnext with hnext | hnext
    · apply List.mem_append_right _ hnext
    · obtain rfl := List.mem_singleton.mp hnext
      apply List.mem_append.mpr hend.symm

/-- A walk that runs into an earlier one reports nothing, and there is no new round. -/
theorem Searched.join
    {visited looped path : List Nat} {node : Nat} (h : g.Searched visited looped)
    (htrail : g.Trail visited path node) (hnode : node ∈ visited) :
  loop? looped (path, some node) = none ∧ g.Searched (visited ++ path) looped
  := by
  constructor
  · have hpath : node ∉ path := fun hpath => htrail.unvisited node hpath hnode
    simp [loop?, hpath]
  · constructor
    · apply h.isTrap_append htrail (.inr hnode)
    · intro i hi
      apply List.mem_append_left _ (h.known i hi)
    · intro i hi hrecurs
      rcases List.mem_append.mp hi with hi | hi
      · apply h.recurs i hi hrecurs
      · apply h.recurs i _ hrecurs
        apply h.isTrap.mem_of_reflTransGen hnode
        apply hrecurs.back (htrail.reflTransGen hi)

/-- A walk that comes back to a node that it has been to reports its round, which is new. -/
theorem Searched.close
    {visited looped path : List Nat} {node : Nat} (h : g.Searched visited looped)
    (htrail : g.Trail visited path node) (hnode : node ∈ path) :
  ∃ round, loop? looped (path, some node) = some round ∧ g.IsRound round
    ∧ (∀ i ∈ round, i ∈ path) ∧ g.Searched (visited ++ path) (looped ++ round)
  := by
  have hnew : node ∉ looped := fun hold => htrail.unvisited node hnode (h.known node hold)
  have hround := htrail.isRound hnode
  have hsub : ∀ i ∈ path.dropWhile (· ≠ node), i ∈ path :=
    fun i hi => (List.dropWhile_sublist _).mem hi
  use path.dropWhile (· ≠ node)
  constructor
  · simp [loop?, hnode, hnew]
  · use hround, hsub
    constructor
    · apply h.isTrap_append htrail (.inl hnode)
    · intro i hi
      rcases List.mem_append.mp hi with hi | hi
      · apply List.mem_append_left _ (h.known i hi)
      · apply List.mem_append_right _ (hsub i hi)
    · intro i hi hrecurs
      rcases List.mem_append.mp hi with hi | hi
      · apply List.mem_append_left _ (h.recurs i hi hrecurs)
      · apply List.mem_append_right
        apply hround.isTrap.mem_of_reflTransGen _ (hrecurs.back (htrail.reflTransGen hi))
        obtain ⟨before, rest, -, hdrop⟩ := exists_dropWhile_ne hnode
        rw [hdrop]
        apply List.mem_cons_self

/-- How the search goes on from a list of nodes, with the rounds that it reports. -/
inductive Search (g : Graph) : (visited looped starts : List Nat) → List (List Nat) → Prop where
  /-- No node is left. -/
  | done {visited looped : List Nat} (searched : g.Searched visited looped) :
      Search g visited looped [] []
  /-- A node has been visited. -/
  | skip {visited looped rest : List Nat} {start : Nat} {rounds : List (List Nat)}
      (start_mem : start ∈ visited) (search : Search g visited looped rest rounds) :
      Search g visited looped (start :: rest) rounds
  /-- The walk from a node runs into an earlier one. -/
  | join {visited looped rest path : List Nat} {start : Nat} {rounds : List (List Nat)}
      (start_mem : start ∈ path) (search : Search g (visited ++ path) looped rest rounds) :
      Search g visited looped (start :: rest) rounds
  /-- The walk from a node goes around a round. -/
  | close {visited looped rest path round : List Nat} {start : Nat} {rounds : List (List Nat)}
      (start_mem : start ∈ path) (isRound : g.IsRound round) (sub : ∀ i ∈ round, i ∈ path)
      (unvisited : ∀ i ∈ path, i ∉ visited)
      (search : Search g (visited ++ path) (looped ++ round) rest rounds) :
      Search g visited looped (start :: rest) (round :: rounds)

/-- The loops of a graph are found by such a search. -/
theorem Searched.search
    (hg : g.IsClosed) {visited looped starts : List Nat} (h : g.Searched visited looped)
    (hstarts : ∀ i ∈ starts, i ∈ g.remaining) :
  g.Search visited looped starts (g.loopsFrom visited looped starts)
  := by
  induction starts generalizing visited looped with
  | nil => apply Search.done h
  | cons start rest ih =>
    obtain ⟨hstart, hrest⟩ := List.forall_mem_cons.mp hstarts
    by_cases hvisited : start ∈ visited
    · rw [loopsFrom, if_pos (by simpa using hvisited)]
      apply Search.skip hvisited (ih h hrest)
    · obtain ⟨path, node, htrail, hpath, hend, hfrom⟩ :=
        loopsFrom_cons hg looped rest hstart hvisited
      rw [hfrom]
      rcases hend with hnode | hnode
      · obtain ⟨round, hloop, hround, hsub, hsearched⟩ := h.close htrail hnode
        rw [hloop]
        apply Search.close hpath hround hsub htrail.unvisited (ih hsearched hrest)
      · obtain ⟨hloop, hsearched⟩ := h.join htrail hnode
        rw [hloop]
        apply Search.join hpath (ih hsearched hrest)

theorem search_loops (hg : g.IsClosed) :
  g.Search [] [] g.remaining g.loops
  := by
  apply g.searched_nil.search hg
  intro i hi
  apply hi

namespace Search

variable {visited looped starts : List Nat} {rounds : List (List Nat)}

theorem isRound
    (h : g.Search visited looped starts rounds) :
  ∀ round ∈ rounds, g.IsRound round
  := by
  induction h with
  | done =>
    intro round hround
    cases hround
  | skip _ _ ih | join _ _ ih => apply ih
  | close _ hround _ _ _ ih => apply List.forall_mem_cons.mpr ⟨hround, ih⟩

/-- No node of a round has been visited before. -/
theorem unvisited
    (h : g.Search visited looped starts rounds) :
  ∀ round ∈ rounds, ∀ i ∈ round, i ∉ visited
  := by
  induction h with
  | done =>
    intro round hround
    cases hround
  | skip _ _ ih => apply ih
  | join _ _ ih =>
    intro round hround i hi hvisited
    apply ih round hround i hi (List.mem_append_left _ hvisited)
  | close _ _ hsub hunvisited _ ih =>
    intro round hround i hi hvisited
    rcases List.mem_cons.mp hround with rfl | hround
    · apply hunvisited i (hsub i hi) hvisited
    · apply ih round hround i hi (List.mem_append_left _ hvisited)

/-- No node is on two rounds. -/
theorem pairwise_disjoint
    (h : g.Search visited looped starts rounds) :
  rounds.Pairwise List.Disjoint
  := by
  induction h with
  | done => apply List.Pairwise.nil
  | skip _ _ ih | join _ _ ih => apply ih
  | close _ _ hsub _ hsearch ih =>
    apply List.pairwise_cons.mpr
    constructor
    · intro round hround i hi hi'
      apply hsearch.unvisited round hround i hi'
      apply List.mem_append_right _ (hsub i hi)
    · apply ih

/-- The search finds the round of each node that it comes back to. -/
theorem mem_of_recurs
    (h : g.Search visited looped starts rounds) (hi : i ∈ visited ∨ i ∈ starts)
    (hrecurs : g.Recurs i) :
  i ∈ looped ∨ ∃ round ∈ rounds, i ∈ round
  := by
  induction h with
  | done hsearched =>
    left
    apply hsearched.recurs i (hi.resolve_right List.not_mem_nil) hrecurs
  | skip hstart _ ih =>
    apply ih
    grind
  | join hstart _ ih =>
    apply ih
    grind
  | close hstart _ _ _ _ ih =>
    have hrest := ih (by grind)
    grind

end Search

/-! ### The loops -/

theorem isRound_of_mem_loops
    (hg : g.IsClosed) {loop : List Nat} (h : loop ∈ g.loops) :
  g.IsRound loop
  := (search_loops hg).isRound loop h

/-- The search comes back to a node exactly if it reports a loop with this node. -/
theorem recurs_iff_mem_loops (hg : g.IsClosed) :
  g.Recurs i ↔ ∃ loop ∈ g.loops, i ∈ loop
  := by
  constructor
  · intro hrecurs
    have hremaining : i ∈ g.remaining := by
      obtain ⟨k, -, hki⟩ := TransGen.tail'_iff.mp hrecurs
      apply (step?_spec hki).2
    apply ((search_loops hg).mem_of_recurs (.inr hremaining) hrecurs).resolve_left
    apply List.not_mem_nil
  · rintro ⟨loop, hloop, hi⟩
    apply (isRound_of_mem_loops hg hloop).recurs hi

/-- The search finds a loop if some node is left out. -/
theorem loops_ne_nil
    (hg : g.IsClosed) (h : g.remaining ≠ []) :
  g.loops ≠ []
  := by
  obtain ⟨i, hi⟩ := List.exists_mem_of_ne_nil _ h
  obtain ⟨j, -, hj⟩ := exists_recurs hg hi
  obtain ⟨loop, hloop, -⟩ := (recurs_iff_mem_loops hg).mp hj
  apply List.ne_nil_of_mem hloop

/-- A graph is cyclic exactly if some node is left out of its order. -/
theorem isCyclic_iff
    (hg : g.IsClosed) :
  g.IsCyclic ↔ g.remaining ≠ []
  := by
  constructor
  · rintro ⟨i, hi⟩
    apply List.ne_nil_of_mem
    apply (mem_remaining_iff hg).mpr
    use i, .refl
  · intro h
    obtain ⟨loop, hloop⟩ := List.exists_mem_of_ne_nil _ (loops_ne_nil hg h)
    apply (isRound_of_mem_loops hg hloop).isLoop.isCyclic

/-- The order of a graph without loops holds every node. -/
theorem order_perm_range
    (hg : g.IsClosed) (h : ¬ g.IsCyclic) :
  g.order.Perm (List.range g.size)
  := by
  apply (List.perm_ext_iff_of_nodup (isGreedy_order g).nodup List.nodup_range).mpr
  intro i
  rw [List.mem_range]
  constructor
  · apply (isGreedy_order g).lt_size
  · intro hi
    by_contra horder
    apply h
    rw [isCyclic_iff hg]
    apply List.ne_nil_of_mem (mem_remaining.mpr ⟨hi, horder⟩)

end Rollout.Graph
