import Rollout.Proofs.Order.Sort

/-!
# Knots of configs

Configs that depend on each other, if only through others, make up a knot.  What is reported
of configs that cannot be sorted are circles of references, of different coordinates, and no
coordinate is in two of them.  A knot that depends on no other one is always reported.  One
that depends on another may be passed over, in the course of the search to that other one.
-/

namespace Rollout

open Relation

/-- Configs at two positions depend on each other, if only through others. -/
def Mutual (configs : List Config) (i j : Nat) : Prop :=
  ReflTransGen (Edge configs) i j ∧ ReflTransGen (Edge configs) j i

/-- The config at a position depends on itself through others, or on a config that does. -/
def IsStuck (configs : List Config) (i : Nat) : Prop :=
  ∃ j, ReflTransGen (Edge configs) i j ∧ TransGen (Edge configs) j j

/-- The coordinates of different configs, each of which refers to the next one, and the last
one to the first. -/
structure IsCircle (configs : List Config) (circle : List Coordinate) : Prop where
  two_le_length : 2 ≤ circle.length
  nodup : circle.Nodup
  members : ∃ first rest, (∀ c ∈ first :: rest, c ∈ configs)
    ∧ (first :: rest).map Config.coordinate = circle
    ∧ (first :: rest ++ [first]).IsChain Config.DependsOn

/-- An error names the configs at some positions as a circle. -/
def Sorted.Names (configs : List Config) (environment : String) (members : List Nat) : Prop :=
  members ≠ [] ∧ .ofCycle ((pick configs members).map Config.coordinate) (nonempty? environment)
    ∈ (Sorted.ofConfigs configs environment).errors

/-- An error names a circle within the knot of a config. -/
def Sorted.NamesKnot (configs : List Config) (environment : String) (i : Nat) : Prop :=
  ∃ members, Names configs environment members ∧ ∀ k ∈ members, Mutual configs i k

variable {configs : List Config} {environment : String} {i j k : Nat}

/-- A config that depends on another one depends on each config at the same coordinate. -/
theorem Edge.of_coordinate
    (h : Edge configs i j) {c d : Config} (hc : configs[j]? = some c) (hd : configs[k]? = some d)
    (hsame : c.coordinate = d.coordinate) :
  Edge configs i k
  := by
  obtain ⟨a, b, ha, hb, hmem, hne⟩ := h
  obtain rfl : b = c := Option.some.inj (hb.symm.trans hc)
  use a, d, ha, hd
  rw [Config.DependsOn, ← hsame]
  use hmem, hne

theorem Mutual.trans
    (hij : Mutual configs i j) (hjk : Mutual configs j k) :
  Mutual configs i k
  := ⟨hij.1.trans hjk.1, hjk.2.trans hij.2⟩

theorem Mutual.symm
    (h : Mutual configs i j) :
  Mutual configs j i
  := ⟨h.2, h.1⟩

/-- A config that depends on another one which depends on it depends on itself. -/
theorem Mutual.transGen_self
    (h : Mutual configs i j) (hne : i ≠ j) :
  TransGen (Edge configs) i i
  := by
  rcases reflTransGen_iff_eq_or_transGen.mp h.1 with rfl | hij
  · exact absurd rfl hne
  · apply hij.trans_left h.2

/-! ### Where the search leads -/

namespace Graph

theorem depends_eq (configs : List Config) :
  (ofConfigs configs).Depends = Edge configs
  := by
  funext i j
  apply propext depends_ofConfigs

theorem LeadsTo.edge
    (h : (ofConfigs configs).LeadsTo i j) :
  Edge configs i j
  := depends_ofConfigs.mp h.depends

/-- What the search leads to from a config, the config depends on. -/
theorem reflTransGen_edge
    (h : ReflTransGen (ofConfigs configs).LeadsTo i j) :
  ReflTransGen (Edge configs) i j
  := by
  apply ReflTransGen.mono _ _ _ h
  intro k l hkl
  apply hkl.edge

theorem mem_remaining_ofConfigs :
  i ∈ (ofConfigs configs).remaining ↔ IsStuck configs i
  := by
  rw [mem_remaining_iff (isClosed_ofConfigs configs), depends_eq]
  rfl

/-- The configs that a config depends on stand in the order of their positions as far as they
have the same coordinate. -/
theorem pairwise_dependenciesOf
    (configs : List Config) (position : Nat) (c : Config) :
  (dependenciesOf configs position c).Pairwise (fun j k =>
    configs[j]?.map Config.coordinate = configs[k]?.map Config.coordinate → j < k)
  := by
  apply List.Pairwise.sublist (Template.distinct_sublist _)
  apply List.Pairwise.filter
  apply List.pairwise_flatMap.mpr
  constructor
  · intro t ht
    apply (List.pairwise_lt_range.filter _).imp
    intro j k hjk hsame
    apply hjk
  · apply ((Template.nodup_distinct _).filter _).imp
    intro t u htu j hj k hk hsame
    obtain ⟨d, hd, rfl⟩ := mem_positionsOf.mp hj
    obtain ⟨e, he, rfl⟩ := mem_positionsOf.mp hk
    rw [hd, he] at hsame
    exact absurd (Option.some.inj hsame) htu

/-- The search leads to the first config at a coordinate that is left out. -/
theorem LeadsTo.le
    (h : (ofConfigs configs).LeadsTo i j) {c d : Config} (hc : configs[j]? = some c)
    (hd : configs[k]? = some d) (hsame : c.coordinate = d.coordinate)
    (hk : k ∈ (ofConfigs configs).remaining) :
  j ≤ k
  := by
  obtain ⟨a, -, ha, -⟩ := h.edge
  have hneeds : k ∈ (ofConfigs configs).needs i :=
    depends_ofConfigs.mpr (h.edge.of_coordinate hc hd hsame)
  rw [LeadsTo, step?, List.find?_eq_some_iff_append] at h
  obtain ⟨-, before, after, hsplit, hbefore⟩ := h
  rw [hsplit] at hneeds
  rcases List.mem_append.mp hneeds with hk' | hk'
  · have hleft := hbefore k hk'
    simp [hk] at hleft
  · rcases List.mem_cons.mp hk' with rfl | hk'
    · apply Nat.le_refl
    · have hpairwise := pairwise_dependenciesOf configs i a
      rw [← needs_ofConfigs ha, hsplit] at hpairwise
      apply Nat.le_of_lt
      apply (List.pairwise_cons.mp (List.pairwise_append.mp hpairwise).2.1).1 k hk'
      rw [hc, hd, Option.map_some, Option.map_some, hsame]

/-- Two nodes of loops that stand at the same coordinate are the same. -/
theorem eq_of_mem_loops
    {loop loop' : List Nat} (hloop : loop ∈ (ofConfigs configs).loops) (hj : j ∈ loop)
    (hloop' : loop' ∈ (ofConfigs configs).loops) (hk : k ∈ loop') {c d : Config}
    (hc : configs[j]? = some c) (hd : configs[k]? = some d)
    (hsame : c.coordinate = d.coordinate) :
  j = k
  := by
  have hg := isClosed_ofConfigs configs
  obtain ⟨i, -, hij⟩ := (isRound_of_mem_loops hg hloop).exists_previous hj
  obtain ⟨i', -, hik⟩ := (isRound_of_mem_loops hg hloop').exists_previous hk
  apply Nat.le_antisymm
  · apply hij.le hc hd hsame (step?_spec hik).2
  · apply hik.le hd hc hsame.symm (step?_spec hij).2

end Graph

/-! ### Circles -/

theorem exists_getElem?_of_mem_loop
    {loop : List Nat} (h : loop ∈ (Graph.ofConfigs configs).loops) (hi : i ∈ loop) :
  ∃ c, configs[i]? = some c
  := by
  obtain ⟨j, -, hij⟩ :=
    (Graph.isRound_of_mem_loops (Graph.isClosed_ofConfigs configs) h).exists_next hi
  obtain ⟨c, -, hc, -⟩ := hij.edge
  use c, hc

/-- The configs at the positions of a chain of edges depend on each other in a chain. -/
theorem isChain_pick
    {positions : List Nat} (h : positions.IsChain (Edge configs)) :
  (pick configs positions).IsChain Config.DependsOn
  := by
  induction positions with
  | nil => apply List.IsChain.nil
  | cons i positions ih =>
    cases positions with
    | nil =>
      rw [pick, List.filterMap_cons]
      split
      · apply List.IsChain.nil
      · apply List.isChain_singleton
    | cons j positions =>
      obtain ⟨⟨c, d, hc, hd, hcd⟩, hrest⟩ := List.isChain_cons_cons.mp h
      have htail := ih hrest
      rw [pick, List.filterMap_cons_some hd] at htail
      rw [pick, List.filterMap_cons_some hc, List.filterMap_cons_some hd]
      apply List.isChain_cons_cons.mpr ⟨hcd, htail⟩

theorem nodup_coordinates
    {loop : List Nat} (h : loop ∈ (Graph.ofConfigs configs).loops) :
  ((pick configs loop).map Config.coordinate).Nodup
  := by
  have hround := Graph.isRound_of_mem_loops (Graph.isClosed_ofConfigs configs) h
  have hnodup : loop.Nodup := by
    obtain ⟨nodup, -⟩ := hround
    apply nodup
  apply List.pairwise_map.mpr
  apply List.pairwise_filterMap.mpr
  apply List.Pairwise.imp_of_mem _ hnodup
  intro j k hj hk hne c hc d hd hsame
  apply hne
  apply Graph.eq_of_mem_loops h hj h hk hc hd hsame

/-- The coordinates of a loop are a circle. -/
theorem isCircle_of_mem_loops
    {loop : List Nat} (h : loop ∈ (Graph.ofConfigs configs).loops) :
  IsCircle configs ((pick configs loop).map Config.coordinate)
  := by
  have hnodup := nodup_coordinates h
  have hvalid := fun i hi => exists_getElem?_of_mem_loop h (i := i) hi
  obtain ⟨-, steps⟩ := Graph.isRound_of_mem_loops (Graph.isClosed_ofConfigs configs) h
  rename_i node rest
  obtain ⟨first, hfirst⟩ := hvalid node List.mem_cons_self
  have hpick : pick configs (node :: rest) = first :: pick configs rest :=
    List.filterMap_cons_some hfirst
  have hchain : (first :: pick configs rest ++ [first]).IsChain Config.DependsOn := by
    have hedges := isChain_pick (steps.imp (fun _ _ hij => hij.edge))
    rw [pick, List.filterMap_append, ← pick, hpick, List.filterMap_cons_some hfirst] at hedges
    apply hedges
  rw [hpick] at hnodup ⊢
  constructor
  · -- A circle of one config would be a config that depends on itself.
    cases hrest : pick configs rest with
    | nil =>
      rw [hrest] at hchain
      exact absurd rfl (List.isChain_pair.mp hchain).2
    | cons second others => simp
  · apply hnodup
  · use first, pick configs rest
    constructor
    · intro c hc
      rw [← hpick] at hc
      obtain ⟨i, -, hi⟩ := List.mem_filterMap.mp hc
      apply List.mem_of_getElem? hi
    · exact ⟨rfl, hchain⟩

/-- No coordinate is in two circles. -/
theorem disjoint_coordinates
    (configs : List Config) :
  ((Graph.ofConfigs configs).loops.map
    (fun loop => (pick configs loop).map Config.coordinate)).Pairwise List.Disjoint
  := by
  apply List.pairwise_map.mpr
  apply List.Pairwise.imp_of_mem _
    (Graph.search_loops (Graph.isClosed_ofConfigs configs)).pairwise_disjoint
  intro loop loop' hloop hloop' hdisjoint t ht ht'
  obtain ⟨c, hc, rfl⟩ := List.mem_map.mp ht
  obtain ⟨d, hd, hsame⟩ := List.mem_map.mp ht'
  obtain ⟨j, hj, hjc⟩ := List.mem_filterMap.mp hc
  obtain ⟨k, hk, hkd⟩ := List.mem_filterMap.mp hd
  obtain rfl := Graph.eq_of_mem_loops hloop hj hloop' hk hjc hkd hsame.symm
  apply hdisjoint hj hk

namespace Sorted

/-- Configs that are not all placed have a cycle. -/
theorem hasCycle_of_length_order
    (h : (Graph.ofConfigs configs).order.length < configs.length) :
  HasCycle configs
  := by
  by_contra hcycle
  have hlength := (Graph.isDependencyOrder_order hcycle).perm.length_eq
  rw [List.length_range] at hlength
  omega

/-- If not all configs can be placed, the search for loops comes to an end from each of those
that are left out, after as many steps at most as there are configs and without ever missing
a dependency to follow, and the errors name at least one circle of references.  Each names a
circle, and no coordinate is in two of them. -/
theorem errors_are_circles
    (h : (Graph.ofConfigs configs).order.length < configs.length) (environment : String) :
  (∀ start ∈ (Graph.ofConfigs configs).remaining, ∀ visited, ∃ path node,
      path.length ≤ configs.length
        ∧ ∀ more, configs.length < more →
          (Graph.ofConfigs configs).walk visited more [] start = (path, some node))
    ∧ ∃ circles, (ofConfigs configs environment).errors
        = circles.map (fun circle => .ofCycle circle (nonempty? environment))
      ∧ circles ≠ []
      ∧ (∀ circle ∈ circles, IsCircle configs circle)
      ∧ circles.Pairwise List.Disjoint
  := by
  have hg := Graph.isClosed_ofConfigs configs
  have hcycle := hasCycle_of_length_order h
  have hremaining := (Graph.isCyclic_iff hg).mp (Graph.isCyclic_ofConfigs.mpr hcycle)
  constructor
  · intro start hstart visited
    obtain ⟨path, node, hwalk, htrail, -⟩ :=
      Graph.walk_spec hg ((Graph.ofConfigs configs).size + 1) (Graph.Trail.start visited hstart)
        (by simp)
    rw [Graph.size_ofConfigs] at hwalk
    use path, node
    constructor
    · rw [← Graph.size_ofConfigs]
      apply htrail.length_le
    · intro more hmore
      apply Graph.walk_of_le hwalk hmore
  · use (Graph.ofConfigs configs).loops.map
      (fun loop => (pick configs loop).map Config.coordinate)
    constructor
    · rw [ofConfigs_of_hasCycle hcycle, List.map_map]
      rfl
    · constructor
      · intro hnil
        apply Graph.loops_ne_nil hg hremaining
        apply List.map_eq_nil_iff.mp hnil
      · constructor
        · intro circle hcircle
          obtain ⟨loop, hloop, rfl⟩ := List.mem_map.mp hcircle
          apply isCircle_of_mem_loops hloop
        · apply disjoint_coordinates

/-! ### Knots that are named -/

/-- The loops that are found are named. -/
theorem names_of_mem_loops
    (hcycle : HasCycle configs) (environment : String) {loop : List Nat}
    (h : loop ∈ (Graph.ofConfigs configs).loops) :
  Names configs environment loop
  := by
  constructor
  · obtain ⟨-, -⟩ := Graph.isRound_of_mem_loops (Graph.isClosed_ofConfigs configs) h
    apply List.cons_ne_nil
  · rw [ofConfigs_of_hasCycle hcycle]
    apply List.mem_map_of_mem h

/-- What is named has the coordinates of a loop that is found. -/
theorem Names.exists_loop
    {members : List Nat} (h : Names configs environment members) :
  ∃ loop ∈ (Graph.ofConfigs configs).loops,
    (pick configs loop).map Config.coordinate = (pick configs members).map Config.coordinate
  := by
  obtain ⟨-, herror⟩ := h
  by_cases hcycle : HasCycle configs
  · rw [ofConfigs_of_hasCycle hcycle] at herror
    obtain ⟨loop, hloop, heq⟩ := List.mem_map.mp herror
    use loop, hloop
    apply ErrorKind.cycle.inj (congrArg DeployError.kind heq)
  · rw [ofConfigs_of_not_hasCycle hcycle] at herror
    cases herror

/-- A loop with the coordinates of configs in a knot is in the knot. -/
theorem mutual_of_coordinates
    (hne : i ≠ j) (h : Mutual configs i j) {loop members : List Nat}
    (hloop : loop ∈ (Graph.ofConfigs configs).loops)
    (hsame : (pick configs loop).map Config.coordinate
      = (pick configs members).map Config.coordinate)
    (hmembers : ∀ k ∈ members, Mutual configs i k) :
  ∀ k ∈ loop, Mutual configs i k
  := by
  intro k hk
  have hround := Graph.isRound_of_mem_loops (Graph.isClosed_ofConfigs configs) hloop
  obtain ⟨c, hc⟩ := exists_getElem?_of_mem_loop hloop hk
  have hcoordinate : c.coordinate ∈ (pick configs members).map Config.coordinate := by
    rw [← hsame]
    apply List.mem_map_of_mem
    apply List.mem_filterMap.mpr
    use k, hk, hc
  obtain ⟨d, hd, hdc⟩ := List.mem_map.mp hcoordinate
  obtain ⟨m, hm, hmd⟩ := List.mem_filterMap.mp hd
  have himutual := hmembers m hm
  constructor
  · -- Whatever of the knot refers to the member refers to the config of the loop as well.
    have hself : TransGen (Edge configs) m m := by
      by_cases hmi : m = i
      · rw [hmi]
        apply h.transGen_self hne
      · apply himutual.symm.transGen_self hmi
    obtain ⟨p, hmp, hpm⟩ := TransGen.tail'_iff.mp hself
    apply (himutual.1.trans hmp).tail (hpm.of_coordinate hmd hc hdc)
  · obtain ⟨l, hl, hlk⟩ := hround.exists_previous hk
    have hkl := Graph.reflTransGen_edge (hround.reflTransGen hk hl)
    apply (hkl.tail (hlk.edge.of_coordinate hc hmd hdc.symm)).trans himutual.2

/-- From a config that is left out the search leads to a loop that it finds. -/
theorem exists_loop_of_isStuck
    (hi : IsStuck configs i) :
  ∃ loop ∈ (Graph.ofConfigs configs).loops,
    ∀ k ∈ loop, ReflTransGen (Graph.ofConfigs configs).LeadsTo i k
  := by
  have hg := Graph.isClosed_ofConfigs configs
  obtain ⟨j, hij, hj⟩ := Graph.exists_recurs hg (Graph.mem_remaining_ofConfigs.mpr hi)
  obtain ⟨loop, hloop, hmem⟩ := (Graph.recurs_iff_mem_loops hg).mp hj
  use loop, hloop
  intro k hk
  apply hij.trans ((Graph.isRound_of_mem_loops hg hloop).reflTransGen hmem hk)

/-- A knot is named exactly if there is a config in it from which the search never leaves it.
So it is named if no config of it refers to a config outside of it that is left out as well,
and every knot depends on a circle that is named, if only through others. -/
theorem knot_named_unless_left
    (hne : i ≠ j) (h : Mutual configs i j) (environment : String) :
  (NamesKnot configs environment i
      ↔ ∃ k, Mutual configs i k
          ∧ ∀ l, ReflTransGen (Graph.ofConfigs configs).LeadsTo k l → Mutual configs i l)
    ∧ ((∀ k l, Mutual configs i k → Edge configs k l → IsStuck configs l → Mutual configs i l) →
      NamesKnot configs environment i)
    ∧ ∃ members, Names configs environment members
      ∧ ∀ k ∈ members, ReflTransGen (Edge configs) i k
  := by
  have hg := Graph.isClosed_ofConfigs configs
  have hself := h.transGen_self hne
  have hcycle : HasCycle configs := ⟨i, hself⟩
  have hnamed : (∃ k, Mutual configs i k
      ∧ ∀ l, ReflTransGen (Graph.ofConfigs configs).LeadsTo k l → Mutual configs i l) →
      NamesKnot configs environment i := by
    rintro ⟨k, hik, hstays⟩
    obtain ⟨loop, hloop, hleads⟩ := exists_loop_of_isStuck ⟨i, hik.2, hself⟩
    use loop, names_of_mem_loops hcycle environment hloop
    intro l hl
    apply hstays l (hleads l hl)
  constructor
  · constructor
    · rintro ⟨members, hnames, hmembers⟩
      obtain ⟨loop, hloop, hsame⟩ := hnames.exists_loop
      have hmutual := mutual_of_coordinates hne h hloop hsame hmembers
      have hround := Graph.isRound_of_mem_loops hg hloop
      obtain ⟨k, hk⟩ := List.exists_mem_of_ne_nil _ (names_of_mem_loops hcycle environment hloop).1
      use k, hmutual k hk
      intro l hl
      apply hmutual l (hround.isTrap.mem_of_reflTransGen hk hl)
    · apply hnamed
  · constructor
    · intro hindependent
      apply hnamed
      use i, ⟨.refl, .refl⟩
      intro l hl
      induction hl with
      | refl => exact ⟨.refl, .refl⟩
      | tail _ hkl ih =>
        apply hindependent _ _ ih hkl.edge
        apply Graph.mem_remaining_ofConfigs.mp (Graph.step?_spec hkl).2
    · obtain ⟨loop, hloop, hleads⟩ := exists_loop_of_isStuck ⟨i, .refl, hself⟩
      use loop, names_of_mem_loops hcycle environment hloop
      intro k hk
      apply Graph.reflTransGen_edge (hleads k hk)

end Sorted

/-! ### Two knots -/

namespace Sample

/-- A dashboard that shows others. -/
def showing (name : String) (others : List String) : Config where
  coordinate := ⟨"shop", "dashboard", name⟩
  target := .classic "dashboard"
  template := ⟨"board.json", "[]"⟩
  parameters := .ofList ((nameParameter, .value (.text name))
    :: others.map (fun other => (other, .reference ⟨⟨"shop", "dashboard", other⟩, idProperty⟩)))
  skip := .fixed false
  environment := "test"
  group := ""

/-- Two dashboards that show each other, and two more that do.  The first one shows one of
the others in front of its own companion. -/
def knotted : List Config :=
  [showing "sales" ["plant", "stock"], showing "stock" ["sales"],
    showing "plant" ["grid"], showing "grid" ["plant"]]

/-- Each dashboard depends on those that it shows. -/
theorem edge_knotted
    {i j : Nat} :
  Edge knotted i j ↔ j ∈ [[2, 1], [0], [3], [2]].getD i []
  := by
  have hgraph : Graph.ofConfigs knotted = ⟨[[2, 1], [0], [3], [2]]⟩ := by decide +kernel
  rw [← Graph.depends_ofConfigs, hgraph]
  rfl

theorem mutual_knotted
    {i j : Nat} (hij : j ∈ [[2, 1], [0], [3], [2]].getD i [])
    (hji : i ∈ [[2, 1], [0], [3], [2]].getD j []) :
  Mutual knotted i j
  := by
  constructor
  · apply ReflTransGen.single (edge_knotted.mpr hij)
  · apply ReflTransGen.single (edge_knotted.mpr hji)

theorem mutual_sales : Mutual knotted 0 1
  := mutual_knotted (by decide) (by decide)

theorem mutual_plant : Mutual knotted 2 3
  := mutual_knotted (by decide) (by decide)

/-- The second two dashboards depend on nothing else. -/
theorem eq_of_edge_plant
    {i j : Nat} (hi : i = 2 ∨ i = 3) (hij : ReflTransGen (Edge knotted) i j) :
  j = 2 ∨ j = 3
  := by
  induction hij with
  | refl => apply hi
  | tail _ hjk ih =>
    rw [edge_knotted] at hjk
    rcases ih with rfl | rfl
    · simpa using Or.inr hjk
    · simpa using Or.inl hjk

end Sample

/-- The search ends among the four dashboards, and the errors name circles. -/
theorem errors_are_circles_knotted :
  (Graph.ofConfigs Sample.knotted).order.length < Sample.knotted.length
    ∧ ∃ circles, (Sorted.ofConfigs Sample.knotted "test").errors
        = circles.map (fun circle => .ofCycle circle (some "test"))
      ∧ circles ≠ [] ∧ ∀ circle ∈ circles, IsCircle Sample.knotted circle
  := by
  have hlength : (Graph.ofConfigs Sample.knotted).order.length < Sample.knotted.length := by
    decide +kernel
  obtain ⟨-, circles, herrors, hne, hcircles, -⟩ := Sorted.errors_are_circles hlength "test"
  use hlength, circles, herrors, hne, hcircles

/-- The two dashboards that depend on no other knot are named. -/
theorem knot_named_unless_left_plant :
  2 ≠ 3 ∧ Mutual Sample.knotted 2 3 ∧ Sorted.NamesKnot Sample.knotted "test" 2
  := by
  have hne : 2 ≠ 3 := by decide
  use hne, Sample.mutual_plant
  apply (Sorted.knot_named_unless_left hne Sample.mutual_plant "test").2.1
  intro k l hk hkl _
  have hl : l = 2 ∨ l = 3 := Sample.eq_of_edge_plant (.inl rfl) (hk.1.tail hkl)
  rcases hl with rfl | rfl
  · exact ⟨.refl, .refl⟩
  · apply Sample.mutual_plant

/-- The first two dashboards show each other, and no error names the two. -/
theorem knot_passed_over_sales :
  0 ≠ 1 ∧ Mutual Sample.knotted 0 1 ∧ ¬ Sorted.NamesKnot Sample.knotted "test" 0
  := by
  use by decide, Sample.mutual_sales
  rintro ⟨members, ⟨hne, herror⟩, hmembers⟩
  have herrors : (Sorted.ofConfigs Sample.knotted "test").errors
      = [.ofCycle [⟨"shop", "dashboard", "plant"⟩, ⟨"shop", "dashboard", "grid"⟩]
        (some "test")] := by
    decide +kernel
  rw [herrors, List.mem_singleton] at herror
  have hcircle := ErrorKind.cycle.inj (congrArg DeployError.kind herror)
  have hplant : (⟨"shop", "dashboard", "plant"⟩ : Coordinate)
      ∈ (pick Sample.knotted members).map Config.coordinate := by
    rw [hcircle]
    apply List.mem_cons_self
  obtain ⟨c, hc, hcoordinate⟩ := List.mem_map.mp hplant
  obtain ⟨m, hm, hmc⟩ := List.mem_filterMap.mp hc
  have hposition : ∀ n < 4, Sample.knotted[n]?.map Config.coordinate
      = some ⟨"shop", "dashboard", "plant"⟩ → n = 2 := by
    decide +kernel
  obtain rfl : m = 2 := by
    apply hposition m (List.getElem?_eq_some_iff.mp hmc).1
    rw [hmc, Option.map_some, hcoordinate]
  rcases Sample.eq_of_edge_plant (.inl rfl) (hmembers 2 hm).2 with h | h
  · cases h
  · cases h

end Rollout
