import Rollout.Proofs.Deploy.Course

/-!
# Names that are taken

A config of an API with unique names is deployed only if its name is free there, and it
takes the name with that.  A name that is taken is the only reason for reporting a
duplicate, save for a parameter that comes up with such an error by itself.
-/

namespace Rollout

variable {σ : Type}

/-- A name is taken in an API once it has been added, and no other name is. -/
theorem NameIndex.has_add
    (index : NameIndex) (api name api' name' : String) :
  (index.add api name).has api' name' = true
    ↔ index.has api' name' = true ∨ api = api' ∧ name = name'
  := by
  rw [add, has, names, Table.find?_insert]
  by_cases hapi : api = api'
  · subst hapi
    rw [if_pos rfl, Option.getD_some]
    split
    · rename_i hold
      constructor
      · exact .inl
      · rintro (h | ⟨-, rfl⟩)
        · apply h
        · apply hold
    · rw [eq_comm (a := name)]
      simp [has]
  · rw [if_neg hapi]
    simp [has, names, hapi]

/-! ### Taking a name -/

namespace Config

/-- A config goes by a name in an API with unique names. -/
def Takes (c : Config) (conditions : Conditions) (registry : Registry) (api name : String) :
    Prop :=
  ∃ id found, c.target = .classic id ∧ conditions.catalog.find? id = some found
    ∧ found.requiresUniqueName = true ∧ found.id = api
    ∧ c.name (c.values conditions.vars registry) = .ok name

variable {c : Config} {conditions : Conditions} {registry : Registry} {names : NameIndex}
  {plan : Plan} {api name : String}

/-- A config that takes a name has a way to the platform by its name. -/
theorem Takes.exists_route
    (h : c.Takes conditions registry api name) :
  ∃ found, c.target.route? conditions.catalog = some (.byName found) ∧ found.id = api
    ∧ c.name (c.values conditions.vars registry) = .ok name
  := by
  obtain ⟨id, found, htarget, hfind, hunique, hapi, hname⟩ := h
  use found
  constructor
  · simp [htarget, Target.route?, hfind, hunique]
  · exact ⟨hapi, hname⟩

/-- A config whose way to the platform is by its name takes the name. -/
theorem takes_of_route
    {found : Api} (hroute : c.target.route? conditions.catalog = some (.byName found))
    (hname : c.nameOn (.byName found) (c.values conditions.vars registry) = .ok (some name)) :
  c.Takes conditions registry found.id name
  := by
  obtain ⟨id, htarget, hfind, hunique⟩ := classic_of_byName hroute
  exact ⟨id, found, htarget, hfind, hunique, rfl, name_of_nameOn hname⟩

/-- A config that passes every check takes the name by which it is pushed. -/
theorem Passes.takes_iff
    (h : c.Passes conditions registry names plan) :
  c.Takes conditions registry api name
    ↔ ∃ found, plan.route = .byName found ∧ found.id = api ∧ plan.name = some name
  := by
  have hon := h.named
  constructor
  · intro htakes
    obtain ⟨found, hroute, hapi, hname⟩ := htakes.exists_route
    rw [h.way, Option.some_inj] at hroute
    obtain ⟨n, hn⟩ := h.exists_name (congrArg Route.api? hroute)
    rw [hn] at hon
    rw [name_of_nameOn hon] at hname
    cases hname
    exact ⟨found, hroute, hapi, hn⟩
  · rintro ⟨found, hroute, rfl, hname⟩
    rw [hroute, hname] at hon
    apply takes_of_route (hroute ▸ h.way) hon

/-- A config that passes every check finds its name free. -/
theorem Passes.has_eq_false
    (h : c.Passes conditions registry names plan) (htakes : c.Takes conditions registry api name) :
  names.has api name = false
  := by
  obtain ⟨found, hroute, rfl, hname⟩ := h.takes_iff.mp htakes
  have hunique := h.unique
  rw [hroute, hname] at hunique
  simp only [isDuplicate] at hunique
  split at hunique
  · cases hunique
  · rename_i hfree
    simpa using hfree

/-- The names that are taken after a config has been deployed are those from before, and the
one that it takes. -/
theorem Passes.has_addDeployed
    {b : Books} (h : c.Passes conditions b.registry b.names plan) (remote : RemoteEntity)
    (api name : String) :
  (b.addDeployed c plan remote).names.has api name = true
    ↔ b.names.has api name = true ∨ c.Takes conditions b.registry api name
  := by
  rw [h.takes_iff]
  cases hroute : plan.route with
  | settings | byId | entity | automation => simp [Books.addDeployed, hroute]
  | byName found =>
    obtain ⟨n, hn⟩ := h.exists_name (congrArg Route.api? hroute)
    simp [Books.addDeployed, hroute, hn, NameIndex.has_add]

/-- A deployment with an outcome adds the name that the config takes to those that are taken,
if the config is deployed, and nothing else. -/
theorem Course.has_names
    {mode : Mode σ} {environment : String} {b : Books} {s : Session σ} {d : Deployed σ}
    {o : Outcome} (hcourse : c.Course conditions mode environment b s d) (h : d.result = .ok o)
    (api name : String) :
  d.books.names.has api name = true
    ↔ b.names.has api name = true
      ∨ o.state = .deployed ∧ c.Takes conditions b.registry api name
  := by
  cases hcourse with
  | fault => cases h
  | unwritten => cases h
  | skipped | failed | refused =>
    cases h
    simp [Books.addSkipped, skippedOutcome, failedOutcome, pending]
  | deployed passes =>
    cases h
    rw [passes.has_addDeployed]
    simp [deployedOutcome, pending]

end Config

/-! ### Duplicates -/

/-- A parameter may come up with an error of a kind by itself. -/
def Parameter.Raises (p : Parameter) (kind : ErrorKind) : Prop :=
  ∃ e, .deploy e ∈ p.failures ∧ e.kind = kind

/-- One of the parameters of a config may come up with an error of a kind by itself. -/
def Config.Raises (c : Config) (kind : ErrorKind) : Prop :=
  (∃ entry ∈ c.parameters.entries, entry.2.Raises kind)
    ∨ ∃ p, c.skip = .parameter p ∧ p.Raises kind

/-- A config whose parameters are made of ways to a value raises nothing. -/
theorem Config.IsRegular.not_raises
    {c : Config} (h : c.IsRegular) (kind : ErrorKind) :
  ¬ c.Raises kind
  := by
  rintro (⟨entry, hentry, e, he, -⟩ | ⟨p, hp, e, he, -⟩)
  · rw [Parameter.failures_eq_nil _ (h.parameters _ hentry)] at he
    cases he
  · rw [Parameter.failures_eq_nil _ (h.skip p hp)] at he
    cases he

/-- The kinds of errors that the resolution of parameters comes to: a value, a reference or a
scope is wrong. -/
def ErrorKind.IsOfResolution : ErrorKind → Prop
  | .parameter => True
  | .reference _ _ _ => True
  | .noScope => True
  | _ => False

/-- A parameter that reports anything else comes up with it by itself. -/
theorem Site.raises_of_settle
    {site : Site} {registry : Registry} {vars : Variables} {p : Parameter}
    {errors : List DeployError} (h : site.settle vars registry p = .error errors)
    {e : DeployError} (he : e ∈ errors) (hkind : ¬ e.kind.IsOfResolution) :
  p.Raises e.kind
  := by
  have hsettled := site.settled_settle vars registry p
  rw [h] at hsettled
  cases hsettled with
  | failed checked resolved =>
    rename_i failure
    obtain rfl := List.mem_singleton.mp he
    rcases Parameter.cause_of_resolve resolved
      with hown | (hvalue | ⟨r, hvalue⟩) | ⟨r, -, -, problem, hreference⟩
    · cases failure with
      | deploy own => exact ⟨own, hown, rfl⟩
      | badValue | badType | unwritable => exact absurd trivial hkind
    · rw [hvalue] at hkind
      exact absurd trivial hkind
    · rw [hvalue] at hkind
      exact absurd trivial hkind
    · rw [hreference] at hkind
      exact absurd trivial hkind
  | rejected =>
    obtain ⟨r, -, hreports⟩ := reports_of_mem he
    obtain ⟨problem, -, hreference⟩ := hreports.kind
    rw [hreference] at hkind
    exact absurd trivial hkind

namespace Config

variable {c : Config} {conditions : Conditions} {registry : Registry} {names : NameIndex}

/-- Parameters that report anything else come up with it by themselves. -/
theorem raises_of_parameterErrors
    {vars : Variables} {e : DeployError} (he : e ∈ c.parameterErrors vars registry)
    (hkind : ¬ e.kind.IsOfResolution) :
  c.Raises e.kind
  := by
  rcases mem_parameterErrors he with ⟨-, hscope⟩ | ⟨name, p, errors, hp, hsettle, hmem⟩
  · rw [hscope.kind] at hkind
    exact absurd trivial hkind
  · left
    exact ⟨_, hp, Site.raises_of_settle hsettle hmem hkind⟩

/-- A name that is taken is that of a config which takes it in its API. -/
theorem takes_of_isDuplicate
    {route : Route} {name : Option String} {e : DeployError}
    (hroute : c.target.route? conditions.catalog = some route)
    (hname : c.nameOn route (c.values conditions.vars registry) = .ok name)
    (h : isDuplicate names route name = .ok (some e)) :
  ∃ api name, c.Takes conditions registry api name ∧ names.has api name = true
  := by
  cases route with
  | settings | byId | entity | automation => cases h
  | byName api =>
    cases name with
    | none => cases h
    | some name =>
      simp only [isDuplicate] at h
      split at h
      · rename_i htaken
        exact ⟨api.id, name, takes_of_route hroute hname, htaken⟩
      · cases h

/-- An objection that reports a duplicate is about a name that is taken, unless a parameter
comes up with it by itself. -/
theorem Objection.taken
    {variant : Option Variant} {errors : List DeployError}
    (h : c.Objection conditions registry names variant errors) {e : DeployError}
    (he : e ∈ errors) (hkind : e.kind = .duplicateName) (hraises : ¬ c.Raises .duplicateName) :
  ∃ api name, c.Takes conditions registry api name ∧ names.has api name = true
  := by
  have hforeign : ¬ e.kind.IsOfResolution := by
    rw [hkind]
    exact id
  rw [← hkind] at hraises
  cases h with
  | skip hskip hsettle =>
    exact absurd (.inr ⟨_, hskip, Site.raises_of_settle hsettle he hforeign⟩) hraises
  | parameters arrives fits ne_nil =>
    rcases List.mem_append.mp he with hparameters | hname
    · exact absurd (raises_of_parameterErrors hparameters hforeign) hraises
    · rcases kind_of_nameErrors hname with hname | hname
      all_goals
        rw [hname] at hkind
        cases hkind
  | unknownApi | automation =>
    obtain rfl := List.mem_singleton.mp he
    cases hkind
  | duplicate way named taken => apply takes_of_isDuplicate way named taken
  | payload way payload =>
    obtain rfl := List.mem_singleton.mp he
    rcases kind_of_payload payload with ⟨templateId, key, hpayload⟩ | hpayload
    all_goals
      rw [hpayload] at hkind
      cases hkind

/-- A deployment whose outcome reports a duplicate is that of a config whose name is taken,
unless a parameter comes up with the report by itself. -/
theorem Course.taken
    {mode : Mode σ} {environment : String} {b : Books} {s : Session σ} {d : Deployed σ}
    {o : Outcome} (hcourse : c.Course conditions mode environment b s d) (h : d.result = .ok o)
    {e : DeployError} (he : e ∈ o.errors) (hkind : e.kind = .duplicateName)
    (hraises : ¬ c.Raises .duplicateName) :
  ∃ api name, c.Takes conditions b.registry api name ∧ b.names.has api name = true
  := by
  cases hcourse with
  | fault => cases h
  | unwritten => cases h
  | skipped | deployed =>
    cases h
    cases he
  | failed objection =>
    cases h
    obtain ⟨e, herrors, rfl⟩ := List.mem_map.mp he
    apply objection.taken herrors hkind hraises
  | refused =>
    cases h
    obtain ⟨e, herrors, rfl⟩ := List.mem_map.mp he
    obtain rfl := List.mem_singleton.mp herrors
    cases hkind

end Config

end Rollout
