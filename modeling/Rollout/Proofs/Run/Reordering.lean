import Mathlib.Data.Finset.Dedup
import Mathlib.Tactic.Choose
import Rollout.Proofs.Deploy.Agreement
import Rollout.Proofs.Order.Sort
import Rollout.Proofs.Run.Names
import Rollout.Proofs.Run.Replacement
import Rollout.Proofs.Run.Totality

/-!
# Configs in another order

The order of the configs of an environment is of no account as long as each config comes
after those that it refers to.  In front of a config the registry holds the same under all
coordinates that it refers to, so its outcome is the same, unless names or the answers of the
client depend on the order.
-/

namespace Rollout

variable {σ : Type}

/-! ### Histories that leave the same behind -/

/-- What the latest visit at a coordinate left behind is the same in two histories if both come
there or neither does, and their visits there leave the same behind. -/
theorem Visit.latest?_congr
    {environment : String} {t : Coordinate} {history history' : List (Visit σ)}
    (hiff : (∃ v ∈ history, v.IsAt environment t) ↔ ∃ v ∈ history', v.IsAt environment t)
    (hsame : ∀ v ∈ history, ∀ v' ∈ history', v.IsAt environment t → v'.IsAt environment t →
      v.entity? = v'.entity?) :
  latest? environment t history = latest? environment t history'
  := by
  by_cases hthere : ∃ v ∈ history, v.IsAt environment t
  · obtain ⟨v', hv', hat'⟩ := hiff.mp hthere
    obtain ⟨v, hv, hat⟩ := hthere
    cases hlatest : latest? environment t history with
    | none =>
      cases hlatest' : latest? environment t history' with
      | none => rfl
      | some e' =>
        obtain ⟨_, u', _, rfl, huat, he', -⟩ := latest?_eq_some hlatest'
        rw [← hsame v hv u' (by simp) hat huat, latest?_eq_none hlatest v hv hat] at he'
        cases he'
    | some e =>
      obtain ⟨_, u, _, rfl, huat, he, -⟩ := latest?_eq_some hlatest
      cases hlatest' : latest? environment t history' with
      | none =>
        rw [hsame u (by simp) v' hv' huat hat', latest?_eq_none hlatest' v' hv' hat'] at he
        cases he
      | some e' =>
        obtain ⟨_, u', _, rfl, huat', he', -⟩ := latest?_eq_some hlatest'
        rw [← he, ← he']
        apply hsame u (by simp) u' (by simp) huat huat'
  · rw [latest?_eq_none_of_not_isAt (fun v hv hat => hthere ⟨v, hv, hat⟩),
      latest?_eq_none_of_not_isAt (fun v hv hat => mt hiff.mpr hthere ⟨v, hv, hat⟩)]

/-! ### Names as sets -/

namespace NameIndex

/-- The names that are taken in an API, in no order, if there is an entry for the API. -/
def taken? (index : NameIndex) (api : String) : Option (Finset String) :=
  (index.find? api).map List.toFinset

/-- Every API in an index has a name in it. -/
def IsTight (index : NameIndex) : Prop :=
  ∀ api names, index.find? api = some names → names ≠ []

theorem IsTight.add
    {index : NameIndex} (h : index.IsTight) (api name : String) :
  (index.add api name).IsTight
  := by
  intro api' names hnames
  rw [NameIndex.add, Table.find?_insert] at hnames
  split at hnames
  · split at hnames
    · rename_i hhas
      cases hnames
      rintro hnil
      rw [has, hnil] at hhas
      cases hhas
    · cases hnames
      simp
  · apply h api' names hnames

/-- Tight indexes with the same names taken are the same but for the order of the names. -/
theorem IsTight.taken?_eq
    {index index' : NameIndex} (h : index.IsTight) (h' : index'.IsTight)
    (hhas : ∀ api name, index.has api name = true ↔ index'.has api name = true) (api : String) :
  index.taken? api = index'.taken? api
  := by
  have hmem : ∀ name, name ∈ index.names api ↔ name ∈ index'.names api := by
    intro name
    simpa only [has, List.contains_iff_mem] using hhas api name
  rw [taken?, taken?]
  simp only [names] at hmem
  cases hfind : index.find? api with
  | none =>
    cases hfind' : index'.find? api with
    | none => rfl
    | some names' =>
      obtain ⟨name, hname⟩ := List.exists_mem_of_ne_nil names' (h' api names' hfind')
      rw [hfind, hfind'] at hmem
      cases (hmem name).mpr hname
  | some names =>
    cases hfind' : index'.find? api with
    | none =>
      obtain ⟨name, hname⟩ := List.exists_mem_of_ne_nil names (h api names hfind)
      rw [hfind, hfind'] at hmem
      cases (hmem name).mp hname
    | some names' =>
      rw [hfind, hfind'] at hmem
      rw [Option.map_some, Option.map_some, Option.some_inj]
      ext name
      rw [List.mem_toFinset, List.mem_toFinset]
      apply hmem

end NameIndex

/-- A run leaves only APIs in the index of an environment that a name is taken in. -/
theorem Job.isTight_booksAfter
    {job : Job} {setup : Setup σ} {s : Session σ} {history rest : List (Visit σ)}
    (h : job.visits setup s = history ++ rest) (environment : String) :
  (job.booksAfter setup s history environment).names.IsTight
  := by
  induction history using List.reverseRecOn generalizing rest with
  | nil =>
    rw [booksAfter_nil]
    intro api names hnames
    cases hnames
  | append_singleton history v ih =>
    rw [List.append_assoc, List.singleton_append] at h
    have hhistory := ih h
    rw [booksAfter_concat]
    split
    · rename_i hthere
      obtain ⟨rfl, hsome⟩ := hthere
      obtain ⟨o, ho⟩ := Option.isSome_iff_exists.mp hsome
      have hcontained := contained_outcome (mem_visits h) ho
      rw [← books_visit h] at hhistory
      cases hstate : o.state with
      | pending => exact absurd hstate hcontained.not_pending
      | failed =>
        rw [(hcontained.failed hstate).1]
        apply hhistory
      | skipped =>
        obtain ⟨-, -, hnames, -⟩ := hcontained.skipped hstate
        rw [hnames]
        apply hhistory
      | deployed =>
        rcases (hcontained.deployed hstate).2
          with hnames | ⟨_, api, name, -, -, -, -, hnames⟩
        · rw [hnames]
          apply hhistory
        · rw [hnames]
          apply hhistory.add
    · apply hhistory

/-! ### Two orders -/

/-- Two orders of configs of one environment that stand at different coordinates.  In both of
them each config comes after those that it refers to. -/
structure Reorders (environment : String) (configs configs' : List Config) : Prop where
  perm : configs.Perm configs'
  environment : ∀ c ∈ configs, c.environment = environment
  distinct : (configs.map Config.coordinate).Nodup
  sorted : configs.Pairwise (fun c d => ¬ c.DependsOn d)
  sorted' : configs'.Pairwise (fun c d => ¬ c.DependsOn d)

theorem Reorders.symm
    {environment : String} {configs configs' : List Config}
    (h : Reorders environment configs configs') :
  Reorders environment configs' configs
  := by
  constructor
  · apply h.perm.symm
  · intro c hc
    apply h.environment c (h.perm.mem_iff.mpr hc)
  · apply (h.perm.map Config.coordinate).nodup_iff.mp h.distinct
  · apply h.sorted'
  · apply h.sorted

/-- Configs of the environment are told apart by their coordinates. -/
theorem Reorders.eq_of_coordinate
    {environment : String} {configs configs' : List Config}
    (h : Reorders environment configs configs') {c d : Config} (hc : c ∈ configs)
    (hd : d ∈ configs) (hcoordinate : c.coordinate = d.coordinate) :
  c = d
  := List.inj_on_of_nodup_map h.distinct hc hd hcoordinate

/-- A run over configs of an environment comes to all of them, and each has an outcome that
reports no duplicate. -/
structure Covers (setup : Setup σ) (s : Session σ) (environment : String)
    (configs : List Config) : Prop where
  all : ((Job.inOrder configs).visits setup s).map Visit.config = configs
  environment : ∀ v ∈ (Job.inOrder configs).visits setup s, v.environment = environment
  outcomes : ∀ v ∈ (Job.inOrder configs).visits setup s,
    ∃ o, v.outcome? = some o ∧ ∀ e ∈ o.errors, e.kind ≠ .duplicateName

theorem covers_of_run
    {setup : Setup σ} {s s' : Session σ} {environment : String} {configs : List Config}
    {report : Report} (h : (Job.inOrder configs).run setup s = .ok (report, s'))
    (hcontinue : setup.options.continueOnError = true) (hcancel : ∀ n, setup.cancelled n = false)
    (henvironment : ∀ c ∈ configs, c.environment = environment)
    (hfree : ∀ e ∈ report.errors, e.kind ≠ .duplicateName) :
  Covers setup s environment configs
  := by
  have hitems : configs.map (fun c => (c.environment, c))
      = ((Job.inOrder configs).visits setup s).map Visit.item :=
    Job.items_eq_visits h hcontinue hcancel
  constructor
  · have hconfigs := congrArg (List.map Prod.snd) hitems
    simpa [Visit.item, Function.comp_def] using hconfigs.symm
  · intro v hv
    have hitem : v.item ∈ configs.map (fun c => (c.environment, c)) := by
      rw [hitems]
      apply List.mem_map_of_mem hv
    obtain ⟨c, hc, heq⟩ := List.mem_map.mp hitem
    rw [← henvironment c hc]
    exact (congrArg Prod.fst heq).symm
  · intro v hv
    obtain ⟨o, ho⟩ := (Job.ending_run h).1 v hv
    use o, ho
    intro e he
    apply hfree
    apply Report.mem_errors.mpr
    use v.environment
    obtain ⟨houtcomes, herrors⟩ := Job.environment_run h v.environment
    rw [herrors, houtcomes]
    apply List.mem_append_right
    apply List.mem_flatMap.mpr ⟨o, Visit.mem_outcomes.mpr ⟨v, hv, rfl, ho⟩, he⟩

/-- With a client whose answers depend on the requests alone, a config that is not reported as
a duplicate has one outcome in front of all registries that agree on what it refers to. -/
theorem Setup.outcome_congr
    {setup : Setup σ} {environment : String} {c : Config} {b b' : Books} {s s' : Session σ}
    {o o' : Outcome}
    (hstateless : ∀ client, setup.clients environment = some client → client.IsStateless)
    (hagree : c.AgreeOn b.registry b'.registry)
    (h : (setup.deploy environment c b s).result = .ok o)
    (hfree : ∀ e ∈ o.errors, e.kind ≠ .duplicateName)
    (h' : (setup.deploy environment c b' s').result = .ok o')
    (hfree' : ∀ e ∈ o'.errors, e.kind ≠ .duplicateName) :
  o = o'
  := by
  rw [deploy] at h h'
  split at h
  · rename_i hdry
    rw [if_pos hdry] at h'
    apply hagree.outcome _ h hfree h' hfree'
    intro client hclient
    cases hclient
  · rename_i hreal
    rw [if_neg hreal] at h'
    cases hclient : setup.clients environment with
    | none =>
      rw [hclient] at h h'
      cases h
      cases h'
      rfl
    | some client =>
      rw [hclient] at h h'
      apply hagree.outcome _ h hfree h' hfree'
      intro client' hclient'
      cases hclient'
      apply hstateless client hclient

section

variable {setup : Setup σ} {environment : String} {configs configs' : List Config}
  {s t : Session σ}

theorem Covers.mem_configs
    (h : Covers setup s environment configs) {v : Visit σ}
    (hv : v ∈ (Job.inOrder configs).visits setup s) :
  v.config ∈ configs
  := by
  rw [← h.all]
  apply List.mem_map_of_mem hv

theorem Covers.exists_visit
    (h : Covers setup s environment configs) {c : Config} (hc : c ∈ configs) :
  ∃ v ∈ (Job.inOrder configs).visits setup s, v.config = c
  := by
  rw [← h.all] at hc
  apply List.mem_map.mp hc

variable {before after before' after' : List (Visit σ)} {v v' : Visit σ}

/-- Visits at one coordinate are made to one config. -/
theorem Reorders.config_eq
    (h : Reorders environment configs configs') (hcovers : Covers setup s environment configs)
    (hcovers' : Covers setup t environment configs')
    (hv : v ∈ (Job.inOrder configs).visits setup s)
    (hv' : v' ∈ (Job.inOrder configs').visits setup t)
    (hcoordinate : v.config.coordinate = v'.config.coordinate) :
  v.config = v'.config
  := by
  apply h.eq_of_coordinate (hcovers.mem_configs hv) _ hcoordinate
  apply h.perm.mem_iff.mpr (hcovers'.mem_configs hv')

/-- What is visited in one order is visited in the other one. -/
theorem Reorders.exists_config
    (h : Reorders environment configs configs') (hcovers : Covers setup s environment configs)
    (hcovers' : Covers setup t environment configs')
    (hv : v ∈ (Job.inOrder configs).visits setup s) :
  ∃ v' ∈ (Job.inOrder configs').visits setup t, v'.config = v.config
  := hcovers'.exists_visit (h.perm.mem_iff.mp (hcovers.mem_configs hv))

theorem Reorders.exists_isAt
    (h : Reorders environment configs configs') (hcovers : Covers setup s environment configs)
    (hcovers' : Covers setup t environment configs') {coordinate : Coordinate}
    (hthere : ∃ v ∈ (Job.inOrder configs).visits setup s, v.IsAt environment coordinate) :
  ∃ v ∈ (Job.inOrder configs').visits setup t, v.IsAt environment coordinate
  := by
  obtain ⟨v, hv, -, rfl⟩ := hthere
  obtain ⟨v', hv', hconfig⟩ := h.exists_config hcovers hcovers' hv
  exact ⟨v', hv', hcovers'.environment v' hv', congrArg Config.coordinate hconfig⟩

/-- What comes up in front of a config that refers to it does so in each order. -/
theorem Reorders.isAt_before
    (h : Reorders environment configs configs') (hcovers : Covers setup s environment configs)
    (hcovers' : Covers setup t environment configs')
    (hv : (Job.inOrder configs).visits setup s = before ++ v :: after)
    (hv' : (Job.inOrder configs').visits setup t = before' ++ v' :: after')
    (hconfig : v.config = v'.config) {r : Coordinate} (hr : r ∈ v.config.references)
    (hbefore : ∃ u ∈ before, u.IsAt environment r) :
  ∃ u ∈ before', u.IsAt environment r
  := by
  obtain ⟨u, hu, -, rfl⟩ := hbefore
  have hconfigs : configs = before.map Visit.config ++ v.config :: after.map Visit.config := by
    rw [← hcovers.all, hv, List.map_append, List.map_cons]
  have hconfigs' : configs' = before'.map Visit.config ++ v'.config :: after'.map Visit.config := by
    rw [← hcovers'.all, hv', List.map_append, List.map_cons]
  have hdepends : v'.config.DependsOn u.config := by
    rw [← hconfig]
    use hr
    have hdistinct := h.distinct
    rw [hconfigs, List.map_append, List.nodup_append] at hdistinct
    apply hdistinct.2.2
    · exact List.mem_map_of_mem (List.mem_map_of_mem hu)
    · rw [List.map_cons]
      apply List.mem_cons_self
  have hmem : u.config ∈ configs' := by
    apply h.perm.mem_iff.mp
    rw [hconfigs]
    apply List.mem_append_left _ (List.mem_map_of_mem hu)
  rw [hconfigs', List.mem_append, List.mem_cons] at hmem
  rcases hmem with hbefore | heq | hafter
  · obtain ⟨u', hu', heq⟩ := List.mem_map.mp hbefore
    use u', hu'
    constructor
    · apply hcovers'.environment
      rw [hv']
      apply List.mem_append_left _ hu'
    · rw [heq]
  · rw [heq] at hdepends
    exact absurd rfl hdepends.2
  · have hsorted := h.sorted'
    rw [hconfigs', List.pairwise_append, List.pairwise_cons] at hsorted
    exact absurd hdepends (hsorted.2.1.1 _ hafter)

/-- In two orders a config meets registries that agree on what it refers to, if the configs in
front of it have the same outcomes. -/
theorem Reorders.agreeOn
    (h : Reorders environment configs configs') (hcovers : Covers setup s environment configs)
    (hcovers' : Covers setup t environment configs')
    (hv : (Job.inOrder configs).visits setup s = before ++ v :: after)
    (hv' : (Job.inOrder configs').visits setup t = before' ++ v' :: after')
    (hconfig : v.config = v'.config)
    (hsame : ∀ u ∈ before, ∀ u' ∈ before', u.config = u'.config → u.outcome? = u'.outcome?) :
  v.config.AgreeOn v.books.registry v'.books.registry
  := by
  intro r hr
  have hreferences : r.target ∈ v.config.references := by
    rw [Config.references, Template.mem_distinct]
    apply List.mem_map_of_mem hr
  have hfind : v.books.registry.find? r.target = v'.books.registry.find? r.target := by
    rw [Job.registry_visit hv, Job.registry_visit hv',
      hcovers.environment v (Job.mem_visits hv), hcovers'.environment v' (Job.mem_visits hv')]
    apply Visit.latest?_congr
    · constructor
      · apply h.isAt_before hcovers hcovers' hv hv' hconfig hreferences
      · rw [hconfig] at hreferences
        apply h.symm.isAt_before hcovers' hcovers hv' hv hconfig.symm hreferences
    · rintro u hu u' hu' ⟨-, hat⟩ ⟨-, hat'⟩
      have hconfig : u.config = u'.config := by
        apply h.config_eq hcovers hcovers' _ _ (hat.trans hat'.symm)
        · rw [hv]
          apply List.mem_append_left _ hu
        · rw [hv']
          apply List.mem_append_left _ hu'
      rw [Visit.entity?, Visit.entity?, hsame u hu u' hu' hconfig]
  rw [Registry.read, Registry.read, hfind]

/-- In two orders every config has the same outcome. -/
theorem Reorders.outcome?_eq
    (h : Reorders environment configs configs') (hcovers : Covers setup s environment configs)
    (hcovers' : Covers setup t environment configs')
    (hstateless : ∀ client, setup.clients environment = some client → client.IsStateless)
    {history rest : List (Visit σ)}
    (hhistory : (Job.inOrder configs).visits setup s = history ++ rest) :
  ∀ u ∈ history, ∀ u' ∈ (Job.inOrder configs').visits setup t, u.config = u'.config →
    u.outcome? = u'.outcome?
  := by
  -- Whatever a config refers to stands in front of it, where the outcomes are known to agree.
  induction history using List.reverseRecOn generalizing rest with
  | nil => simp
  | append_singleton history v ih =>
    rw [List.append_assoc, List.singleton_append] at hhistory
    have hsame := ih hhistory
    intro u hu u' hu' hconfig
    rcases List.mem_append.mp hu with hu | hu
    · apply hsame u hu u' hu' hconfig
    · obtain rfl := List.mem_singleton.mp hu
      have hv := Job.mem_visits hhistory
      obtain ⟨before', after', hsplit⟩ := List.append_of_mem hu'
      have hagree : u.config.AgreeOn u.books.registry u'.books.registry := by
        apply h.agreeOn hcovers hcovers' hhistory hsplit hconfig
        intro w hw w' hw'
        apply hsame w hw w'
        rw [hsplit]
        apply List.mem_append_left _ hw'
      obtain ⟨o, ho, hfree⟩ := hcovers.outcomes u hv
      obtain ⟨o', ho', hfree'⟩ := hcovers'.outcomes u' hu'
      rw [ho, ho', Option.some_inj]
      rw [Visit.outcome?_eq_some_iff, Job.deployed_visit hv, hcovers.environment u hv] at ho
      rw [Visit.outcome?_eq_some_iff, Job.deployed_visit hu', hcovers'.environment u' hu',
        ← hconfig] at ho'
      apply Setup.outcome_congr hstateless hagree ho hfree ho' hfree'

/-- In two orders the same configs take the same names. -/
theorem Reorders.hasTaken
    (h : Reorders environment configs configs') (hcovers : Covers setup s environment configs)
    (hcovers' : Covers setup t environment configs')
    (hstateless : ∀ client, setup.clients environment = some client → client.IsStateless)
    {api name : String}
    (htaken : ∃ v ∈ (Job.inOrder configs).visits setup s,
      v.HasTaken setup environment api name) :
  ∃ v ∈ (Job.inOrder configs').visits setup t, v.HasTaken setup environment api name
  := by
  have hsame := h.outcome?_eq hcovers hcovers' hstateless (List.append_nil _).symm
  obtain ⟨v, hv, -, hstate, htakes⟩ := htaken
  obtain ⟨v', hv', hconfig⟩ := h.exists_config hcovers hcovers' hv
  obtain ⟨before, after, hsplit⟩ := List.append_of_mem hv
  obtain ⟨before', after', hsplit'⟩ := List.append_of_mem hv'
  have hagree : v.config.AgreeOn v.books.registry v'.books.registry := by
    apply h.agreeOn hcovers hcovers' hsplit hsplit' hconfig.symm
    intro u hu u' hu'
    apply hsame
    · rw [hsplit]
      apply List.mem_append_left _ hu
    · rw [hsplit']
      apply List.mem_append_left _ hu'
  use v', hv', hcovers'.environment v' hv'
  constructor
  · rw [Visit.state?, ← hsame v hv v' hv' hconfig.symm]
    apply hstate
  · rw [Visit.Takes, hconfig, Config.Takes, ← hagree.values]
    apply htakes

/-- In two orders there is one outcome for each config. -/
theorem Reorders.exists_outcomeOf
    (h : Reorders environment configs configs') (hcovers : Covers setup s environment configs)
    (hcovers' : Covers setup t environment configs')
    (hstateless : ∀ client, setup.clients environment = some client → client.IsStateless) :
  ∃ outcomeOf : Config → Outcome,
    (∀ v ∈ (Job.inOrder configs).visits setup s, v.outcome? = some (outcomeOf v.config))
      ∧ ∀ v ∈ (Job.inOrder configs').visits setup t, v.outcome? = some (outcomeOf v.config)
  := by
  have hsame := h.outcome?_eq hcovers hcovers' hstateless (List.append_nil _).symm
  have hone : ∀ c, ∃ o, c ∈ configs →
      (∀ v ∈ (Job.inOrder configs).visits setup s, v.config = c → v.outcome? = some o)
        ∧ ∀ v ∈ (Job.inOrder configs').visits setup t, v.config = c → v.outcome? = some o := by
    intro c
    by_cases hc : c ∈ configs
    · obtain ⟨u, hu, rfl⟩ := hcovers.exists_visit hc
      obtain ⟨u', hu', hconfig⟩ := h.exists_config hcovers hcovers' hu
      obtain ⟨o, ho, -⟩ := hcovers.outcomes u hu
      use o
      intro _
      constructor
      · intro v hv hv'
        rw [hsame v hv u' hu' (hv'.trans hconfig.symm), ← hsame u hu u' hu' hconfig.symm, ho]
      · intro v hv hv'
        rw [← hsame u hu v hv hv'.symm, ho]
    · use c.pending environment
      intro hmem
      exact absurd hmem hc
  choose outcomeOf houtcomes using hone
  use outcomeOf
  constructor
  · intro v hv
    apply (houtcomes v.config (hcovers.mem_configs hv)).1 v hv rfl
  · intro v hv
    apply (houtcomes v.config (h.perm.mem_iff.mpr (hcovers'.mem_configs hv))).2 v hv rfl

/-- The outcomes of the configs stand in their order. -/
theorem Covers.outcomes_eq
    (h : Covers setup s environment configs) {outcomeOf : Config → Outcome}
    (houtcomes : ∀ v ∈ (Job.inOrder configs).visits setup s,
      v.outcome? = some (outcomeOf v.config)) :
  Visit.outcomes environment ((Job.inOrder configs).visits setup s) = configs.map outcomeOf
  := by
  have hall : ((Job.inOrder configs).visits setup s).filter
      (fun v => v.environment = environment) = (Job.inOrder configs).visits setup s := by
    apply List.filter_eq_self.mpr
    intro v hv
    apply decide_eq_true (h.environment v hv)
  calc Visit.outcomes environment ((Job.inOrder configs).visits setup s)
      = ((Job.inOrder configs).visits setup s).filterMap Visit.outcome? := by
        rw [Visit.outcomes, hall]
    _ = ((Job.inOrder configs).visits setup s).map (fun v => outcomeOf v.config) := by
        rw [← List.filterMap_eq_map]
        apply List.filterMap_congr houtcomes
    _ = (((Job.inOrder configs).visits setup s).map Visit.config).map outcomeOf :=
        List.map_map.symm
    _ = configs.map outcomeOf := congrArg (List.map outcomeOf) h.all

end

/-- The order of configs is of no account.  If two runs over the same configs of an environment,
in two orders in which each config comes after those that it refers to, come to an end without
reporting a duplicate, continue after errors, are not cancelled and have a client whose answers
depend on the requests alone, then every config has the same outcome in both, the registries
are equal, and the same names are taken. -/
theorem Reorders.order_independent
    {setup : Setup σ} {environment : String} {configs configs' : List Config}
    {s t s' t' : Session σ} {report report' : Report}
    (h : Reorders environment configs configs')
    (hcontinue : setup.options.continueOnError = true) (hcancel : ∀ n, setup.cancelled n = false)
    (hstateless : ∀ client, setup.clients environment = some client → client.IsStateless)
    (hrun : (Job.inOrder configs).run setup s = .ok (report, s'))
    (hrun' : (Job.inOrder configs').run setup t = .ok (report', t'))
    (hfree : ∀ e ∈ report.errors, e.kind ≠ .duplicateName)
    (hfree' : ∀ e ∈ report'.errors, e.kind ≠ .duplicateName) :
  (∃ outcomeOf : Config → Outcome,
      (report.environment environment).outcomes = configs.map outcomeOf
        ∧ (report'.environment environment).outcomes = configs'.map outcomeOf)
    ∧ (∀ coordinate, (report.environment environment).books.registry.find? coordinate
      = (report'.environment environment).books.registry.find? coordinate)
    ∧ ∀ api, (report.environment environment).books.names.taken? api
      = (report'.environment environment).books.names.taken? api
  := by
  have hcovers := covers_of_run hrun hcontinue hcancel h.environment hfree
  have hcovers' := covers_of_run hrun' hcontinue hcancel h.symm.environment hfree'
  obtain ⟨outcomeOf, houtcomes, houtcomes'⟩ :=
    h.exists_outcomeOf hcovers hcovers' hstateless
  constructor
  · use outcomeOf
    rw [(Job.environment_run hrun environment).1, (Job.environment_run hrun' environment).1]
    exact ⟨hcovers.outcomes_eq houtcomes, hcovers'.outcomes_eq houtcomes'⟩
  · constructor
    · intro coordinate
      rw [Job.registry_run hrun, Job.registry_run hrun']
      apply Visit.latest?_congr
      · constructor
        · apply h.exists_isAt hcovers hcovers'
        · apply h.symm.exists_isAt hcovers' hcovers
      · rintro v hv v' hv' ⟨-, hat⟩ ⟨-, hat'⟩
        have hconfig := h.config_eq hcovers hcovers' hv hv' (hat.trans hat'.symm)
        rw [Visit.entity?, Visit.entity?, houtcomes v hv, houtcomes' v' hv', hconfig]
    · intro api
      rw [Job.books_run hrun, Job.books_run hrun']
      have hall : (Job.inOrder configs).visits setup s
          = (Job.inOrder configs).visits setup s ++ [] := (List.append_nil _).symm
      have hall' : (Job.inOrder configs').visits setup t
          = (Job.inOrder configs').visits setup t ++ [] := (List.append_nil _).symm
      apply NameIndex.IsTight.taken?_eq (Job.isTight_booksAfter hall environment)
        (Job.isTight_booksAfter hall' environment)
      intro api name
      rw [Job.has_booksAfter hall, Job.has_booksAfter hall']
      constructor
      · apply h.hasTaken hcovers hcovers' hstateless
      · apply h.symm.hasTaken hcovers' hcovers hstateless

namespace Sample

/-- A dashboard that nothing refers to. -/
def annex : Config :=
  { board with
    coordinate := ⟨"shop", "dashboard", "annex"⟩
    parameters := .ofList [(nameParameter, .value (.text "Annex"))] }

/-- A client that answers with what it is given. -/
def echo : Client Unit where
  upsert request state := (.ok ⟨request.identity, request.name⟩, state)

def echoed : Setup Unit :=
  ⟨conditions, {}, .single echo, fun _ => false⟩

def echoedSession : Session Unit :=
  ⟨(), none, ⟨.empty, []⟩, []⟩

/-- The dashboard that nothing refers to may come first. -/
theorem reorders_annex :
  Reorders "test" [board, overview, annex] [annex, board, overview]
  := by
  constructor
  · exact @List.perm_append_comm _ [board, overview] [annex]
  · decide
  · decide +kernel
  · decide +kernel
  · decide +kernel

end Sample

/-- Three dashboards are deployed alike in two orders. -/
theorem order_independent_annex :
  ∃ report s' report' t',
    (Job.inOrder [Sample.board, Sample.overview, Sample.annex]).run Sample.echoed
        Sample.echoedSession = .ok (report, s')
      ∧ (Job.inOrder [Sample.annex, Sample.board, Sample.overview]).run Sample.echoed
        Sample.echoedSession = .ok (report', t')
      ∧ ((report.environment "test").count .deployed = 3)
      ∧ ∃ outcomeOf : Config → Outcome,
        (report.environment "test").outcomes
            = [Sample.board, Sample.overview, Sample.annex].map outcomeOf
          ∧ (report'.environment "test").outcomes
            = [Sample.annex, Sample.board, Sample.overview].map outcomeOf
  := by
  have hrun : ((Job.inOrder [Sample.board, Sample.overview, Sample.annex]).run Sample.echoed
      Sample.echoedSession).toOption.map (fun result =>
        (result.1.errors.length, (result.1.environment "test").count .deployed))
      = some (0, 3) := by decide +kernel
  have hrun' : ((Job.inOrder [Sample.annex, Sample.board, Sample.overview]).run Sample.echoed
      Sample.echoedSession).toOption.map (fun result => result.1.errors.length) = some 0 := by
    decide +kernel
  obtain ⟨⟨report, s'⟩, h, hcounts⟩ := exists_eq_ok hrun
  obtain ⟨⟨report', t'⟩, h', hnone'⟩ := exists_eq_ok hrun'
  obtain ⟨hnone, hdeployed⟩ := Prod.mk.inj hcounts
  have hfree : ∀ e ∈ report.errors, e.kind ≠ .duplicateName := by
    rw [List.length_eq_zero_iff.mp hnone]
    simp
  have hfree' : ∀ e ∈ report'.errors, e.kind ≠ .duplicateName := by
    rw [List.length_eq_zero_iff.mp hnone']
    simp
  have hstateless : ∀ client, Sample.echoed.clients "test" = some client →
      client.IsStateless := by
    rintro client ⟨⟩ request state state'
    rfl
  obtain ⟨houtcomes, -, -⟩ := Reorders.order_independent Sample.reorders_annex rfl (fun _ => rfl)
    hstateless h h' hfree hfree'
  exact ⟨report, s', report', t', h, h', hdeployed, houtcomes⟩

end Rollout
