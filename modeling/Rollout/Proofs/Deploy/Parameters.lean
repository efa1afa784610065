import Rollout.Proofs.Deploy.Resolution

/-!
# The parameters of a config

A config depends on what its parameters refer to.  Each of its parameters has a value or
errors, and a settings config that has no scope has an error about this.
-/

namespace Rollout

/-! ### The references of a config -/

namespace Config

/-- All parameters of a config are made of ways to a value. -/
structure IsRegular (c : Config) : Prop where
  parameters : ∀ e ∈ c.parameters.entries, e.2.isRegular = true
  skip : ∀ p, c.skip = .parameter p → p.isRegular = true

variable {c : Config} {vars : Variables} {registry : Registry} {name : String} {p : Parameter}

theorem mem_references {t : Coordinate} :
  t ∈ c.references ↔ (∃ e ∈ c.parameters.entries, ∃ r ∈ e.2.references, r.target = t)
    ∨ ∃ p, c.skip = .parameter p ∧ ∃ r ∈ p.references, r.target = t
  := by
  rw [references, Template.mem_distinct, allReferences, List.map_append, List.mem_append]
  apply or_congr
  · simp only [Table.values, List.mem_map, List.mem_flatMap]
    constructor
    · rintro ⟨r, ⟨p, ⟨e, he, rfl⟩, hr⟩, rfl⟩
      exact ⟨e, he, r, hr, rfl⟩
    · rintro ⟨e, he, r, hr, rfl⟩
      exact ⟨r, ⟨e.2, ⟨e, he, rfl⟩, hr⟩, rfl⟩
  · rw [skipReferences]
    cases c.skip <;> simp

/-- The skip parameter of a config that is known to be skipped or not refers to configs
that have left something behind. -/
theorem offers_of_isSkipped
    {b : Bool} (h : c.isSkipped vars registry = .ok b) {p : Parameter}
    (hp : c.skip = .parameter p) :
  ∀ r ∈ p.references, r.target ≠ c.coordinate ∧ registry.Offers r.target
  := by
  rw [isSkipped, hp] at h
  cases hsettle : c.settle vars registry skipParameter p with
  | ok v => apply Site.offers_of_settle hsettle
  | error errors =>
    simp only [hsettle] at h
    cases h

/-! ### Values and errors -/

theorem find?_values
    (hp : (name, p) ∈ c.parameters.entries) :
  (c.values vars registry).find? name = (c.settle vars registry name p).toOption
  := by
  rw [values, Table.find?_filterMap, Table.find?_eq_some_iff.mpr hp, Option.bind_some]

theorem mem_errorsOf
    {e : DeployError} :
  e ∈ c.errorsOf vars registry name p
    ↔ ∃ errors, c.settle vars registry name p = .error errors ∧ e ∈ errors
  := by
  rw [errorsOf]
  cases c.settle vars registry name p with
  | ok v => simp
  | error errors => simp

/-- A parameter that nothing is wrong with has a value. -/
theorem settle_of_parameterErrors
    (h : c.parameterErrors vars registry = []) (hp : (name, p) ∈ c.parameters.entries) :
  ∃ v, c.settle vars registry name p = .ok v
  := by
  rw [parameterErrors, List.append_eq_nil_iff, List.flatMap_eq_nil_iff] at h
  have herrors := h.2 _ hp
  simp only [errorsOf] at herrors
  cases hsettle : c.settle vars registry name p with
  | ok v => exact ⟨v, rfl⟩
  | error errors =>
    simp only [hsettle] at herrors
    exact absurd herrors (Site.settle_error_ne_nil hsettle)

/-- If nothing is wrong with the parameters, each of them has a value. -/
theorem exists_value
    (h : c.parameterErrors vars registry = []) (hp : c.parameters.find? name = some p) :
  ∃ v, (c.values vars registry).find? name = some v
  := by
  have hentry := Table.find?_eq_some_iff.mp hp
  obtain ⟨v, hv⟩ := settle_of_parameterErrors h hentry
  use v
  rw [find?_values hentry, hv]
  rfl

/-- A config that nothing is wrong with refers to other configs that have left something
behind. -/
theorem offers_of_parameterErrors
    {b : Bool} (hskip : c.isSkipped vars registry = .ok b)
    (herrors : c.parameterErrors vars registry = []) :
  ∀ t ∈ c.references, t ≠ c.coordinate ∧ registry.Offers t
  := by
  intro t ht
  rcases mem_references.mp ht with ⟨⟨name, p⟩, hp, r, hr, rfl⟩ | ⟨p, hp, r, hr, rfl⟩
  · obtain ⟨v, hv⟩ := settle_of_parameterErrors herrors hp
    apply Site.offers_of_settle hv r hr
  · apply offers_of_isSkipped hskip hp r hr

/-! ### The missing scope -/

/-- A settings config without a scope. -/
def LacksScope (c : Config) : Prop :=
  c.target.isSettings = true ∧ scopeParameter ∉ c.parameters.keys

/-- An error tells that a config has no scope. -/
structure ReportsScope (c : Config) (e : DeployError) : Prop where
  kind : e.kind = .noScope
  coordinate : e.coordinate = some c.coordinate
  parameter : e.parameter = some scopeParameter
  environment : e.environment = nonempty? c.environment

theorem scopeErrors_cases
    (c : Config) :
  (c.LacksScope ∧ ∃ e, c.scopeErrors = [e] ∧ c.ReportsScope e)
    ∨ (¬ c.LacksScope ∧ c.scopeErrors = [])
  := by
  have hdeclared : scopeParameter ∉ c.parameters.keys
      ↔ c.parameters.contains scopeParameter = false := by
    rw [← Table.contains_iff_mem_keys, Bool.not_eq_true]
  rw [scopeErrors, LacksScope, hdeclared]
  split
  · rename_i h
    rw [Bool.and_eq_true, Bool.not_eq_true'] at h
    exact .inl ⟨h, _, rfl, rfl, rfl, rfl, rfl⟩
  · rename_i h
    rw [Bool.and_eq_true, Bool.not_eq_true'] at h
    exact .inr ⟨h, rfl⟩

/-- A settings config that nothing is wrong with has a value for its scope. -/
theorem exists_scope
    (h : c.parameterErrors vars registry = []) (hsettings : c.target.isSettings = true) :
  ∃ scope, (c.values vars registry).find? scopeParameter = some scope
  := by
  have hdeclared : c.scopeErrors = [] := (List.append_eq_nil_iff.mp h).1
  cases hfind : c.parameters.find? scopeParameter with
  | some p => apply exists_value h hfind
  | none =>
    rw [scopeErrors, hsettings, Table.contains, hfind] at hdeclared
    cases hdeclared

theorem ReportsScope.of_mem
    {e : DeployError} (he : e ∈ c.scopeErrors) :
  c.LacksScope ∧ c.ReportsScope e
  := by
  rcases c.scopeErrors_cases with ⟨hlacks, e', herrors, hreports⟩ | ⟨-, herrors⟩
  · rw [herrors] at he
    obtain rfl := List.mem_singleton.mp he
    exact ⟨hlacks, hreports⟩
  · rw [herrors] at he
    cases he

/-- An error of the parameters is about a missing scope, or it is an error of one of them. -/
theorem mem_parameterErrors
    {e : DeployError} (he : e ∈ c.parameterErrors vars registry) :
  (c.LacksScope ∧ c.ReportsScope e)
    ∨ ∃ name p errors, (name, p) ∈ c.parameters.entries
      ∧ c.settle vars registry name p = .error errors ∧ e ∈ errors
  := by
  rcases List.mem_append.mp he with hscope | hparameters
  · exact .inl (ReportsScope.of_mem hscope)
  · right
    obtain ⟨⟨name, p⟩, hp, herror⟩ := List.mem_flatMap.mp hparameters
    obtain ⟨errors, hsettle, hmem⟩ := mem_errorsOf.mp herror
    exact ⟨name, p, errors, hp, hsettle, hmem⟩

end Config

end Rollout
