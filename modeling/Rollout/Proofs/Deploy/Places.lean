import Rollout.Proofs.Deploy.Names

/-!
# The places of errors

An error tells the config that it is about, and if it is about a parameter, also which one.
Errors come up in many places, and some of these do not know the config.  When a deployment
fails, each of its errors is filled in, so that none is left without a config, and the
environment is that of the deployment.
-/

namespace Rollout

variable {σ : Type}

/-! ### Errors about one parameter -/

/-- The errors that a parameter comes to by itself are about no other parameter and about no
other config. -/
def Parameter.IsConfined (p : Parameter) (site : Site) : Prop :=
  ∀ e, .deploy e ∈ p.failures →
    (∀ t, e.coordinate = some t → t = site.coordinate)
      ∧ ∀ name, e.parameter = some name → name = site.parameter

theorem Parameter.isConfined_of_isRegular
    {p : Parameter} (h : p.isRegular = true) (site : Site) :
  p.IsConfined site
  := by
  intro e he
  rw [failures_eq_nil p h] at he
  cases he

namespace Site

variable {site : Site} {vars : Variables} {registry : Registry} {p : Parameter}

/-- An error is filled in with what it does not tell. -/
theorem isAbout_ofFailure_deploy
    {e : DeployError} (hcoordinate : ∀ t, e.coordinate = some t → t = site.coordinate)
    (hparameter : ∀ name, e.parameter = some name → name = site.parameter) :
  site.IsAbout (site.ofFailure (.deploy e))
  := by
  constructor
  · cases h : e.coordinate with
    | none => simp [ofFailure, DeployError.locate, h]
    | some t => simp [ofFailure, DeployError.locate, h, hcoordinate t h]
  · cases h : e.parameter with
    | none => simp [ofFailure, h]
    | some name => simp [ofFailure, h, hparameter name h]

/-- A parameter that is confined fails with an error about it. -/
theorem isAbout_ofFailure
    {failure : ResolveFailure} (hp : p.IsConfined site)
    (h : p.resolve vars registry site = .error failure) :
  site.IsAbout (site.ofFailure failure)
  := by
  cases Parameter.origin_of_resolve p h with
  | unset | unwritten => exact ⟨rfl, rfl⟩
  | lost mem followed =>
    obtain ⟨hcoordinate, hparameter⟩ := isAbout_of_follow followed
    apply isAbout_ofFailure_deploy
    · intro t ht
      exact Option.some.inj (ht.symm.trans hcoordinate)
    · intro name hname
      exact Option.some.inj (hname.symm.trans hparameter)
  | own mem =>
    cases failure with
    | badValue | badType | unwritable => exact ⟨rfl, rfl⟩
    | deploy e => apply isAbout_ofFailure_deploy (hp e mem).1 (hp e mem).2

/-- Every error of a parameter that is confined is about it. -/
theorem isAbout_of_settle
    {errors : List DeployError} (hp : p.IsConfined site)
    (h : site.settle vars registry p = .error errors) :
  ∀ e ∈ errors, site.IsAbout e
  := by
  intro e he
  have hsettled := site.settled_settle vars registry p
  rw [h] at hsettled
  cases hsettled with
  | failed checked resolved =>
    obtain rfl := List.mem_singleton.mp he
    apply isAbout_ofFailure hp resolved
  | rejected =>
    obtain ⟨r, -, hreports⟩ := reports_of_mem he
    exact ⟨hreports.coordinate, hreports.parameter⟩

end Site

/-! ### Errors about a config -/

/-- The kinds of errors that are about a parameter: a value, a reference or a scope is wrong,
or a name is. -/
def ErrorKind.IsOfParameter : ErrorKind → Prop
  | .noName => True
  | .nameType => True
  | .duplicateName => True
  | kind => kind.IsOfResolution

namespace Config

/-- The parameters that an error of a kind may name. -/
inductive Blames (c : Config) (kind : ErrorKind) : String → Prop where
  /-- A parameter that the config declares. -/
  | declared {name : String} (mem : name ∈ c.parameters.keys) : Blames c kind name
  /-- The skip parameter. -/
  | skip {p : Parameter} (skip : c.skip = .parameter p) : Blames c kind skipParameter
  /-- The scope that a settings config lacks. -/
  | scope (missing : kind = .noScope) (lacks : c.LacksScope) : Blames c kind scopeParameter
  /-- The name that a config lacks. -/
  | name (missing : kind = .noName) (lacks : nameParameter ∉ c.parameters.keys) :
      Blames c kind nameParameter

/-- An error is about a config: it tells which one, and if it is about a parameter, then about
which one of the config. -/
structure Localises (c : Config) (e : DeployError) : Prop where
  coordinate : e.coordinate = some c.coordinate
  names : e.kind.IsOfParameter → ∃ name, e.parameter = some name
  blames : ∀ name, e.parameter = some name → c.Blames e.kind name

/-- All parameters of a config are confined to it. -/
structure IsConfined (c : Config) : Prop where
  parameters : ∀ entry ∈ c.parameters.entries, entry.2.IsConfined (c.site entry.1)
  skip : ∀ p, c.skip = .parameter p → p.IsConfined (c.site skipParameter)

variable {c : Config} {conditions : Conditions} {registry : Registry} {names : NameIndex}
  {e : DeployError}

theorem IsRegular.isConfined
    (h : c.IsRegular) :
  c.IsConfined
  := by
  constructor
  · intro entry hentry
    apply Parameter.isConfined_of_isRegular (h.parameters entry hentry)
  · intro p hp
    apply Parameter.isConfined_of_isRegular (h.skip p hp)

/-- The environment is of no account for what an error is about. -/
theorem Localises.stamp
    (h : c.Localises (e.locate c.coordinate)) (environment : String) :
  c.Localises (e.stamp c.coordinate environment)
  := ⟨h.coordinate, h.names, h.blames⟩

/-- An error about a parameter of a config is about the config. -/
theorem localises_of_isAbout
    {name : String} (h : (c.site name).IsAbout e) (hblames : c.Blames e.kind name) :
  c.Localises (e.locate c.coordinate)
  := by
  constructor
  · rw [DeployError.locate, h.coordinate]
    rfl
  · intro _
    exact ⟨name, h.parameter⟩
  · intro other hother
    obtain rfl := Option.some.inj (hother.symm.trans h.parameter)
    apply hblames

/-- An error that does not tell what it is about is about the config for which it comes up. -/
theorem localises_of_silent
    (hcoordinate : e.coordinate = none) (hparameter : e.parameter = none)
    (hkind : ¬ e.kind.IsOfParameter) :
  c.Localises (e.locate c.coordinate)
  := by
  constructor
  · rw [DeployError.locate, hcoordinate]
    rfl
  · intro h
    exact absurd h hkind
  · intro name hname
    rw [DeployError.locate, hparameter] at hname
    cases hname

/-! ### Errors of parameters and names -/

/-- An error of the parameters is about the scope that is missing, or about the parameter that
it is an error of. -/
theorem localises_of_parameterErrors
    (hconfined : c.IsConfined) {vars : Variables} (he : e ∈ c.parameterErrors vars registry) :
  c.Localises (e.locate c.coordinate)
  := by
  rcases mem_parameterErrors he with ⟨hlacks, hscope⟩ | ⟨name, p, errors, hp, hsettle, hmem⟩
  · apply localises_of_isAbout ⟨hscope.coordinate, hscope.parameter⟩
    apply Blames.scope hscope.kind hlacks
  · apply localises_of_isAbout (Site.isAbout_of_settle (hconfined.parameters _ hp) hsettle e hmem)
    apply Blames.declared (List.mem_map_of_mem hp)

/-- A parameter that has a value is declared. -/
theorem mem_keys_of_mem_keys_values
    {vars : Variables} {name : String} (h : name ∈ (c.values vars registry).keys) :
  name ∈ c.parameters.keys
  := by
  apply List.Sublist.subset _ h
  exact Table.keys_filterMap_sublist (fun name p => (c.settle vars registry name p).toOption)
    c.parameters.entries

/-- A config that has a name has declared it. -/
theorem mem_keys_of_name
    {vars : Variables} {n : String} (h : c.name (c.values vars registry) = .ok n) :
  nameParameter ∈ c.parameters.keys
  := by
  rw [name] at h
  split at h
  · cases h
  · rename_i v hv
    apply mem_keys_of_mem_keys_values (Table.mem_keys_iff.mpr ⟨v, hv⟩)

/-- An error about the name on the way is about the name parameter. -/
theorem localises_of_nameErrors
    {route : Route} {vars : Variables} (he : e ∈ c.nameErrors route (c.values vars registry)) :
  c.Localises (e.locate c.coordinate)
  := by
  obtain ⟨hname, hresolved⟩ := name_of_nameOn_eq_error (mem_nameErrors_iff.mp he)
  obtain ⟨habout, ⟨hkind, hvalue⟩ | ⟨hkind, hvalue⟩⟩ := name_eq_error hname
  · apply localises_of_isAbout habout
    apply Blames.name hkind
    -- A name that were declared would have no value, and this is not reported once more.
    intro hdeclared
    rw [nameIsUnresolved, hasName, Table.contains_iff_mem_keys.mpr hdeclared, Bool.true_and,
      Bool.not_eq_false'] at hresolved
    exact hvalue (Table.contains_iff_mem_keys.mp hresolved)
  · apply localises_of_isAbout habout
    apply Blames.declared (mem_keys_of_mem_keys_values hvalue)

/-- An error about a name that is taken is about the name parameter. -/
theorem localises_of_isDuplicate
    {route : Route} {name : Option String} {vars : Variables}
    (hname : c.nameOn route (c.values vars registry) = .ok name)
    (h : isDuplicate names route name = .ok (some e)) :
  c.Localises (e.locate c.coordinate)
  := by
  cases route with
  | settings | byId | entity | automation => cases h
  | byName api =>
    cases name with
    | none => cases h
    | some n =>
      simp only [isDuplicate] at h
      split at h <;> cases h
      constructor
      · rfl
      · intro _
        exact ⟨nameParameter, rfl⟩
      · intro other hother
        cases hother
        apply Blames.declared (mem_keys_of_name (name_of_nameOn hname))

/-- An error about the payload tells nothing of parameters. -/
theorem localises_of_payload
    {values : Properties} (h : c.payload conditions values = .ok (.error e)) :
  c.Localises (e.locate c.coordinate)
  := by
  have hrendered := c.rendered_payload conditions values
  rw [h] at hrendered
  cases hrendered with
  | gap | malformed => apply localises_of_silent rfl rfl id

/-! ### Errors of deployments -/

/-- Whatever is wrong with a config that is confined, the errors are about it. -/
theorem Objection.localises
    {variant : Option Variant} {errors : List DeployError}
    (h : c.Objection conditions registry names variant errors) (hconfined : c.IsConfined) :
  ∀ e ∈ errors, c.Localises (e.locate c.coordinate)
  := by
  intro e he
  cases h with
  | skip hskip hsettle =>
    apply localises_of_isAbout (Site.isAbout_of_settle (hconfined.skip _ hskip) hsettle e he)
    apply Blames.skip hskip
  | unknownApi | automation =>
    obtain rfl := List.mem_singleton.mp he
    apply localises_of_silent rfl rfl id
  | parameters =>
    rcases List.mem_append.mp he with hparameters | hname
    · apply localises_of_parameterErrors hconfined hparameters
    · apply localises_of_nameErrors hname
  | duplicate way named taken =>
    obtain rfl := List.mem_singleton.mp he
    apply localises_of_isDuplicate named taken
  | payload way payload =>
    obtain rfl := List.mem_singleton.mp he
    apply localises_of_payload payload

/-- The errors of a deployment are those of an environment. -/
theorem Course.environment_errors
    {mode : Mode σ} {environment : String} {b : Books} {s : Session σ} {d : Deployed σ}
    {o : Outcome} (hcourse : c.Course conditions mode environment b s d) (h : d.result = .ok o) :
  ∀ e ∈ o.errors, e.environment = nonempty? environment
  := by
  intro e he
  cases hcourse with
  | fault | unwritten => cases h
  | skipped | deployed =>
    cases h
    cases he
  | failed | refused =>
    cases h
    obtain ⟨e, -, rfl⟩ := List.mem_map.mp he
    rfl

/-- The errors of the deployment of a config that is confined are about the config. -/
theorem Course.localises
    {mode : Mode σ} {environment : String} {b : Books} {s : Session σ} {d : Deployed σ}
    {o : Outcome} (hcourse : c.Course conditions mode environment b s d) (h : d.result = .ok o)
    (hconfined : c.IsConfined) :
  ∀ e ∈ o.errors, c.Localises e
  := by
  intro e he
  cases hcourse with
  | fault | unwritten => cases h
  | skipped | deployed =>
    cases h
    cases he
  | failed objection =>
    cases h
    obtain ⟨e, herrors, rfl⟩ := List.mem_map.mp he
    apply Localises.stamp
    apply objection.localises hconfined e herrors
  | refused =>
    cases h
    obtain ⟨e, herrors, rfl⟩ := List.mem_map.mp he
    obtain rfl := List.mem_singleton.mp herrors
    apply Localises.stamp
    apply localises_of_silent rfl rfl id

end Config

end Rollout
