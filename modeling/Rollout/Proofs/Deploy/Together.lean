import Rollout.Proofs.Deploy.Parameters

/-!
# Parameters fail together

The parameters of a config are resolved together, and each of them on its own.  A parameter
has a value or it is reported, and neither depends on which other parameters are declared.
Values and errors come in the order of declaration, after the error about a missing scope.
-/

namespace Rollout

/-- Whatever errors a parameter comes to by itself, they are about no parameter yet. -/
def Parameter.IsAnonymous (p : Parameter) : Prop :=
  ∀ e, .deploy e ∈ p.failures → e.parameter = none

theorem Parameter.isAnonymous_of_isRegular
    {p : Parameter} (h : p.isRegular = true) :
  p.IsAnonymous
  := by
  intro e he
  rw [failures_eq_nil p h] at he
  cases he

theorem Parameter.IsAnonymous.parameter_eq
    {p : Parameter} (h : p.IsAnonymous) {site : Site} {e : DeployError} (he : site.Names p e) :
  e.parameter = some site.parameter
  := by
  rcases he with hsite | ⟨own, hown, hnone, -⟩
  · apply hsite
  · exact absurd (h own hown) hnone

namespace Config

/-- A config with one parameter and no others. -/
def only (c : Config) (name : String) (p : Parameter) : Config :=
  { c with parameters := .ofList [(name, p)] }

variable {c : Config} {vars : Variables} {registry : Registry} {name : String} {p : Parameter}

/-- A parameter has the value that it resolves to, and nothing is wrong with it. -/
structure Succeeds (c : Config) (vars : Variables) (registry : Registry) (name : String)
    (p : Parameter) : Prop where
  references : (c.site name).checkReferences registry p = []
  value : ∃ v, p.resolve vars registry (c.site name) = .ok v
    ∧ (c.values vars registry).find? name = some v
  errors : c.errorsOf vars registry name p = []

/-- A parameter has no value, and something is wrong with it. -/
structure Fails (c : Config) (vars : Variables) (registry : Registry) (name : String)
    (p : Parameter) : Prop where
  value : (c.values vars registry).find? name = none
  errors : c.errorsOf vars registry name p ≠ []
  /-- The errors are about this parameter, save those that it came to by itself about another. -/
  names : ∀ e ∈ c.errorsOf vars registry name p, (c.site name).Names p e
  /-- If it came to none about another, all errors are about this parameter. -/
  about : p.IsAnonymous → ∀ e ∈ c.errorsOf vars registry name p, e.parameter = some name

theorem names_of_errorsOf
    {e : DeployError} (he : e ∈ c.errorsOf vars registry name p) :
  (c.site name).Names p e
  := by
  obtain ⟨errors, hsettle, hmem⟩ := mem_errorsOf.mp he
  apply Site.names_of_settle hsettle e hmem

/-- Each parameter succeeds or fails. -/
theorem succeeds_or_fails
    (vars : Variables) (registry : Registry) (hp : (name, p) ∈ c.parameters.entries) :
  c.Succeeds vars registry name p ∨ c.Fails vars registry name p
  := by
  have hsettled := (c.site name).settled_settle vars registry p
  cases hsettle : (c.site name).settle vars registry p with
  | ok v =>
    rw [hsettle] at hsettled
    cases hsettled with
    | value checked resolved =>
      left
      constructor
      · apply checked
      · use v, resolved
        rw [find?_values hp, settle, hsettle]
        rfl
      · rw [errorsOf, settle, hsettle]
  | error errors =>
    rw [hsettle] at hsettled
    right
    constructor
    · rw [find?_values hp, settle, hsettle]
      rfl
    · rw [errorsOf, settle, hsettle]
      apply hsettled.ne_nil
    · intro e he
      apply names_of_errorsOf he
    · intro hanonymous e he
      apply hanonymous.parameter_eq (names_of_errorsOf he)

/-! ### One parameter among others -/

/-- What a parameter contributes depends on the config that it is a parameter of, and on none of
the other parameters. -/
theorem contributes_alike
    (c c' : Config) (vars : Variables) (registry : Registry)
    (hcoordinate : c.coordinate = c'.coordinate) (henvironment : c.environment = c'.environment)
    (hp : (name, p) ∈ c.parameters.entries) (hp' : (name, p) ∈ c'.parameters.entries) :
  (c.values vars registry).find? name = (c'.values vars registry).find? name
    ∧ c.errorsOf vars registry name p = c'.errorsOf vars registry name p
  := by
  have hsettle : c.settle vars registry name p = c'.settle vars registry name p := by
    rw [settle, settle, site, site, hcoordinate, henvironment]
  rw [find?_values hp, find?_values hp', errorsOf, errorsOf, hsettle]
  exact ⟨rfl, rfl⟩

theorem parameterErrors_only
    (c : Config) (vars : Variables) (registry : Registry) (name : String) (p : Parameter) :
  (c.only name p).parameterErrors vars registry
    = (c.only name p).scopeErrors ++ (c.only name p).errorsOf vars registry name p
  := by
  have hentries : (c.only name p).parameters.entries = [(name, p)] := rfl
  rw [parameterErrors, hentries, List.flatMap_singleton]

/-- The parameters of a config succeed or fail together, each as if it were on its own. -/
structure FailsTogether (c : Config) (vars : Variables) (registry : Registry) : Prop where
  /-- Each parameter has its own value or errors, and not both. -/
  each : ∀ name p, (name, p) ∈ c.parameters.entries →
    c.Succeeds vars registry name p ∨ c.Fails vars registry name p
  /-- A parameter has a value exactly if no error is about it. -/
  told : (∀ entry ∈ c.parameters.entries, entry.2.IsAnonymous) → ∀ name ∈ c.parameters.keys,
    (name ∈ (c.values vars registry).keys
      ↔ ∀ e ∈ c.parameterErrors vars registry, e.parameter ≠ some name)
  /-- The values are in the order of declaration. -/
  order : (c.values vars registry).keys.Sublist c.parameters.keys
  /-- There is an error about the scope exactly if a settings config does not declare it. -/
  scope : (c.LacksScope ∧ ∃ e, c.scopeErrors = [e] ∧ c.ReportsScope e)
    ∨ (¬ c.LacksScope ∧ c.scopeErrors = [])
  /-- The errors of the parameters follow it in the order of declaration. -/
  errors : c.parameterErrors vars registry = c.scopeErrors
    ++ c.parameters.entries.flatMap (fun entry => c.errorsOf vars registry entry.1 entry.2)
  /-- A parameter contributes the same if no other one is declared. -/
  alone : ∀ name p, (name, p) ∈ c.parameters.entries →
    (c.values vars registry).find? name = ((c.only name p).values vars registry).find? name
      ∧ (c.only name p).parameterErrors vars registry
        = (c.only name p).scopeErrors ++ c.errorsOf vars registry name p

/-- A parameter that no error is about succeeds, and one that an error is about fails. -/
theorem mem_keys_values_iff
    (vars : Variables) (registry : Registry)
    (h : ∀ entry ∈ c.parameters.entries, entry.2.IsAnonymous)
    (hname : name ∈ c.parameters.keys) :
  name ∈ (c.values vars registry).keys
    ↔ ∀ e ∈ c.parameterErrors vars registry, e.parameter ≠ some name
  := by
  obtain ⟨p, hfind⟩ := Table.mem_keys_iff.mp hname
  have hp := Table.find?_eq_some_iff.mp hfind
  rw [Table.mem_keys_iff]
  rcases succeeds_or_fails vars registry hp with hsucceeds | hfails
  · obtain ⟨v, -, hvalue⟩ := hsucceeds.value
    constructor
    · intro _ e he hparameter
      rcases mem_parameterErrors he
        with ⟨hlacks, hreports⟩ | ⟨other, q, errors, hq, hsettle, hmem⟩
      · rw [hreports.parameter] at hparameter
        exact hlacks.2 (Option.some.inj hparameter ▸ hname)
      · have habout := (h _ hq).parameter_eq (Site.names_of_settle hsettle e hmem)
        obtain rfl : other = name := Option.some.inj (habout.symm.trans hparameter)
        obtain rfl := Option.some.inj (hfind.symm.trans (Table.find?_eq_some_iff.mpr hq))
        have herror := mem_errorsOf.mpr ⟨errors, hsettle, hmem⟩
        rw [hsucceeds.errors] at herror
        cases herror
    · intro _
      exact ⟨v, hvalue⟩
  · constructor
    · rintro ⟨v, hvalue⟩
      rw [hfails.value] at hvalue
      cases hvalue
    · intro hnone
      obtain ⟨e, he⟩ := List.exists_mem_of_ne_nil _ hfails.errors
      have hmem : e ∈ c.parameterErrors vars registry :=
        List.mem_append_right _ (List.mem_flatMap.mpr ⟨(name, p), hp, he⟩)
      exact absurd (hfails.about (h _ hp) e he) (hnone e hmem)

/-- The parameters of every config succeed or fail together. -/
theorem failsTogether
    (c : Config) (vars : Variables) (registry : Registry) :
  c.FailsTogether vars registry
  := by
  constructor
  · intro name p hp
    apply succeeds_or_fails vars registry hp
  · intro h name hname
    apply mem_keys_values_iff vars registry h hname
  · exact Table.keys_filterMap_sublist (fun name p => (c.settle vars registry name p).toOption)
      c.parameters.entries
  · apply scopeErrors_cases
  · rfl
  · intro name p hp
    have honly : (name, p) ∈ (c.only name p).parameters.entries := List.mem_singleton_self _
    obtain ⟨hvalue, herrors⟩ :=
      contributes_alike c (c.only name p) vars registry rfl rfl hp honly
    use hvalue
    rw [herrors, parameterErrors_only]

end Config

/-! ### A profile -/

namespace Sample

/-- A settings config without a scope, of whose parameters only the name has a value. -/
def profile : Config where
  coordinate := ⟨"shop", "profile", "main"⟩
  target := .settings "profile" ""
  template := ⟨"profile.json", "[]"⟩
  parameters := .ofList [("own", .reference ⟨⟨"shop", "profile", "main"⟩, idProperty⟩),
    (nameParameter, .value (.text "Main")), ("limit", .fromVariable "LIMIT" none),
    ("broken", .failing (.badType "broken"))]
  skip := .fixed false
  environment := "test"
  group := ""

end Sample

example :
  (Sample.profile.values .empty .empty).keys = [nameParameter]
    ∧ (Sample.profile.parameterErrors .empty .empty).map (fun e => (e.kind, e.parameter))
      = [(.noScope, some scopeParameter),
        (.reference .own (some Sample.profile.coordinate) idProperty, some "own"),
        (.parameter, some "limit"), (.parameter, some "broken")]
  := by decide +kernel

end Rollout
