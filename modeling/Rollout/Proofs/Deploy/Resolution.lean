import Mathlib.Tactic.Use
import Rollout.Resolution

/-!
# References and resolution

A parameter is resolved only if every one of its references leads to another config that
has left something behind and is not skipped.  If they all do, a parameter that is made
of ways to a value fails for the value of a variable or for a property alone.
-/

namespace Rollout

/-- A coordinate at which a config has left something behind that others may refer to. -/
def Registry.Offers (registry : Registry) (t : Coordinate) : Prop :=
  ∃ e, registry.find? t = some e ∧ e.skip = false

namespace Site

variable {site : Site} {registry : Registry} {vars : Variables} {p : Parameter}

/-! ### Checking references -/

/-- The problem that a site has with a reference. -/
inductive Troubles (site : Site) (registry : Registry) (r : Reference) :
    ReferenceProblem → Prop where
  | own (own : r.target = site.coordinate) : Troubles site registry r .own
  | undeployed (other : r.target ≠ site.coordinate) (missing : registry.find? r.target = none) :
      Troubles site registry r .undeployed
  | skipped {e : Entity} (other : r.target ≠ site.coordinate)
      (found : registry.find? r.target = some e) (skip : e.skip = true) :
      Troubles site registry r .skipped

/-- An error tells the problem with a reference, and which parameter of which config it is a
reference of. -/
structure Reports (site : Site) (registry : Registry) (r : Reference) (e : DeployError) :
    Prop where
  kind : ∃ problem, site.Troubles registry r problem
    ∧ e.kind = .reference problem (some r.target) r.property
  coordinate : e.coordinate = some site.coordinate
  parameter : e.parameter = some site.parameter
  environment : e.environment = nonempty? site.environment

theorem reports_of_troubles
    {r : Reference} {problem : ReferenceProblem} (h : site.Troubles registry r problem)
    (message : String) :
  site.Reports registry r (site.referenceError problem r message)
  := ⟨⟨problem, h, rfl⟩, rfl, rfl, rfl⟩

/-- The check reports a reference unless it leads to another config that has left something
behind. -/
theorem check_cases
    (site : Site) (registry : Registry) (r : Reference) :
  (site.check registry r = none ∧ r.target ≠ site.coordinate ∧ registry.Offers r.target)
    ∨ ∃ e, site.check registry r = some e ∧ site.Reports registry r e
  := by
  rw [check]
  by_cases hown : r.target = site.coordinate
  · rw [if_pos hown]
    exact .inr ⟨_, rfl, reports_of_troubles (.own hown) _⟩
  · rw [if_neg hown]
    cases hfind : registry.find? r.target with
    | none => exact .inr ⟨_, rfl, reports_of_troubles (.undeployed hown hfind) _⟩
    | some e =>
      cases hskip : e.skip with
      | true =>
        simp only [hskip]
        exact .inr ⟨_, rfl, reports_of_troubles (.skipped hown hfind hskip) _⟩
      | false =>
        simp only [hskip]
        exact .inl ⟨rfl, hown, e, hfind, hskip⟩

/-- What is wrong with a reference is an error about this reference. -/
theorem reports_of_check
    {r : Reference} {e : DeployError} (h : site.check registry r = some e) :
  site.Reports registry r e
  := by
  rcases site.check_cases registry r with ⟨hnone, -⟩ | ⟨e', hsome, hreports⟩
  · rw [hnone] at h
    cases h
  · obtain rfl := Option.some.inj (hsome.symm.trans h)
    apply hreports

/-- A reference with a problem leads to its own config, or to none that others may refer to. -/
theorem Troubles.own_or_not_offers
    {r : Reference} {problem : ReferenceProblem} (h : site.Troubles registry r problem) :
  problem = .own ∧ r.target = site.coordinate
    ∨ r.target ≠ site.coordinate ∧ ¬ registry.Offers r.target
  := by
  cases h with
  | own own => exact .inl ⟨rfl, own⟩
  | undeployed other missing =>
    right
    use other
    rintro ⟨e, hfind, -⟩
    rw [missing] at hfind
    cases hfind
  | skipped other found skip =>
    right
    use other
    rintro ⟨e, hfind, hskip⟩
    rw [found] at hfind
    cases hfind
    rw [skip] at hskip
    cases hskip

/-- Nothing is wrong with a reference to another config that has left something behind. -/
theorem check_eq_none_iff {r : Reference} :
  site.check registry r = none ↔ r.target ≠ site.coordinate ∧ registry.Offers r.target
  := by
  rcases site.check_cases registry r with ⟨hnone, hgood⟩ | ⟨e, hsome, hreports⟩
  · simp [hnone, hgood]
  · obtain ⟨problem, htroubles, -⟩ := hreports.kind
    rw [hsome]
    constructor
    · intro h
      cases h
    · rintro ⟨hother, hoffers⟩
      rcases htroubles.own_or_not_offers with ⟨-, hown⟩ | ⟨-, hnot⟩
      · exact absurd hown hother
      · exact absurd hoffers hnot

theorem checkReferences_eq_nil_iff :
  site.checkReferences registry p = []
    ↔ ∀ r ∈ p.references, r.target ≠ site.coordinate ∧ registry.Offers r.target
  := by
  simp only [checkReferences, List.filterMap_eq_nil_iff, check_eq_none_iff]

/-- Every error of the check is about a reference of the parameter. -/
theorem reports_of_mem
    {e : DeployError} (he : e ∈ site.checkReferences registry p) :
  ∃ r ∈ p.references, site.Reports registry r e
  := by
  obtain ⟨r, hr, hcheck⟩ := List.mem_filterMap.mp he
  exact ⟨r, hr, reports_of_check hcheck⟩

/-! ### Settling parameters -/

/-- What a parameter is settled with. -/
inductive Settled (site : Site) (vars : Variables) (registry : Registry) (p : Parameter) :
    Except (List DeployError) Value → Prop where
  /-- It has a value. -/
  | value {v : Value} (checked : site.checkReferences registry p = [])
      (resolved : p.resolve vars registry site = .ok v) : Settled site vars registry p (.ok v)
  /-- It fails although its references are right. -/
  | failed {failure : ResolveFailure} (checked : site.checkReferences registry p = [])
      (resolved : p.resolve vars registry site = .error failure) :
      Settled site vars registry p (.error [site.ofFailure failure])
  /-- It has wrong references. -/
  | rejected (ne_nil : site.checkReferences registry p ≠ []) :
      Settled site vars registry p (.error (site.checkReferences registry p))

theorem settled_settle
    (site : Site) (vars : Variables) (registry : Registry) (p : Parameter) :
  site.Settled vars registry p (site.settle vars registry p)
  := by
  rw [settle]
  split
  · rename_i hcheck
    cases hresolve : p.resolve vars registry site with
    | ok v => exact .value hcheck hresolve
    | error failure => exact .failed hcheck hresolve
  · rename_i hne
    exact .rejected hne

/-- A parameter that has a value has right references alone. -/
theorem offers_of_settle
    {v : Value} (h : site.settle vars registry p = .ok v) :
  ∀ r ∈ p.references, r.target ≠ site.coordinate ∧ registry.Offers r.target
  := by
  have hsettled := site.settled_settle vars registry p
  rw [h] at hsettled
  cases hsettled with
  | value checked => apply checkReferences_eq_nil_iff.mp checked

theorem Settled.ne_nil
    {errors : List DeployError} (h : site.Settled vars registry p (.error errors)) :
  errors ≠ []
  := by
  cases h with
  | failed => apply List.cons_ne_nil
  | rejected ne_nil => apply ne_nil

/-- A parameter without a value has something wrong with it. -/
theorem settle_error_ne_nil
    {errors : List DeployError} (h : site.settle vars registry p = .error errors) :
  errors ≠ []
  := by
  have hsettled := site.settled_settle vars registry p
  rw [h] at hsettled
  apply hsettled.ne_nil

end Site

/-! ### Failures to resolve -/

/-- An error that a parameter may have when all its references are right. -/
def DeployError.IsOfValue (e : DeployError) : Prop :=
  e.kind = .parameter ∨ ∃ r : Reference, e.kind = .reference .noProperty (some r.target) r.property

/-- An error about a reference to something that others may not refer to. -/
def DeployError.IsOfReference (registry : Registry) (r : Reference) (e : DeployError) : Prop :=
  ¬ registry.Offers r.target ∧ ∃ problem, e.kind = .reference problem (some r.target) r.property

/-- A value without a text inside a payload is no text. -/
theorem Value.text?_of_format
    {v : Value} {reason : Unwritable} (h : v.format = .error reason) :
  v.text? = none
  := by
  cases v with
  | text | fragment => cases h
  | null | bool | int | float | list | map => rfl

namespace Parameter

variable {vars : Variables} {registry : Registry} {site : Site}

/-- What following a reference leads to. -/
inductive Followed (registry : Registry) (site : Site) (r : Reference) :
    Except DeployError Value → Prop where
  | missing (missing : registry.find? r.target = none) :
      Followed registry site r (.error (site.noEntity r))
  | skipped {entity : Entity} (found : registry.find? r.target = some entity)
      (skip : entity.skip = true) : Followed registry site r (.error (site.skipped r))
  | lacking {entity : Entity} (found : registry.find? r.target = some entity)
      (skip : entity.skip = false) (lacking : entity.properties.find? r.property = none) :
      Followed registry site r (.error (site.noProperty r))
  | value {entity : Entity} {v : Value} (found : registry.find? r.target = some entity)
      (skip : entity.skip = false) (property : entity.properties.find? r.property = some v) :
      Followed registry site r (.ok v)

theorem followed_follow
    (registry : Registry) (site : Site) (r : Reference) :
  Followed registry site r (follow registry site r)
  := by
  rw [follow]
  cases hfind : registry.find? r.target with
  | none => exact .missing hfind
  | some entity =>
    cases hskip : entity.skip with
    | true =>
      simp only [hskip]
      exact .skipped hfind hskip
    | false =>
      simp only [hskip]
      cases hproperty : entity.properties.find? r.property with
      | none => exact .lacking hfind hskip hproperty
      | some v => exact .value hfind hskip hproperty

theorem cause_of_follow
    {r : Reference} {e : DeployError} (h : follow registry site r = .error e) :
  e.IsOfValue ∨ e.IsOfReference registry r
  := by
  have hfollowed := followed_follow registry site r
  rw [h] at hfollowed
  cases hfollowed with
  | missing missing =>
    right
    constructor
    · simp [Registry.Offers, missing]
    · exact ⟨_, rfl⟩
  | skipped found skip =>
    right
    constructor
    · simp [Registry.Offers, found, skip]
    · exact ⟨_, rfl⟩
  | lacking => exact .inl (.inr ⟨r, rfl⟩)

theorem eq_of_read
    {name : String} {default : Option Value} {e : DeployError}
    (h : read vars site name default = .error e) :
  e = site.noVariable name
  := by
  simp only [read] at h
  cases hvar : vars.find? name with
  | some s =>
    simp only [hvar] at h
    cases h
  | none =>
    cases default with
    | some v =>
      simp only [hvar] at h
      cases h
    | none =>
      simp only [hvar] at h
      cases h
      rfl

mutual

/-- The failures that a parameter may come to by itself. -/
def failures : Parameter → List ResolveFailure
  | .failing failure => [failure]
  | .list items => failures.items items
  | _ => []

/-- The failures that a list of parameters may come to by itself. -/
def failures.items : List Parameter → List ResolveFailure
  | [] => []
  | p :: rest => failures p ++ failures.items rest

end

mutual

/-- A parameter that is made of ways to a value comes to no failure by itself. -/
theorem failures_eq_nil :
    ∀ p : Parameter, p.isRegular = true → p.failures = []
  | .value _, _ => rfl
  | .fromVariable _ _, _ => rfl
  | .reference _, _ => rfl
  | .list items, h => by
      rw [isRegular] at h
      rw [failures]
      apply failures_items_eq_nil items h
  | .failing _, h => by
      rw [isRegular] at h
      cases h

theorem failures_items_eq_nil :
    ∀ items : List Parameter, isRegular.items items = true → failures.items items = []
  | [], _ => rfl
  | p :: rest, h => by
      rw [isRegular.items, Bool.and_eq_true] at h
      rw [failures.items, failures_eq_nil p h.1, failures_items_eq_nil rest h.2]
      rfl

end

mutual

/-- The values that a parameter is made of, save the texts of variables. -/
def sources (registry : Registry) : Parameter → List Value
  | .value v => [v]
  | .fromVariable _ default => default.toList
  | .reference r =>
    ((registry.find? r.target).bind (fun e => e.properties.find? r.property)).toList
  | .list items => sources.items registry items
  | .failing _ => []

/-- The values that a list of parameters is made of. -/
def sources.items (registry : Registry) : List Parameter → List Value
  | [] => []
  | p :: rest => sources registry p ++ sources.items registry rest

end

/-- A value that is no text is one that the parameter is made of. -/
theorem mem_sources_of_resolve
    {p : Parameter} {v : Value} (h : p.resolve vars registry site = .ok v)
    (htext : v.text? = none) :
  v ∈ p.sources registry
  := by
  cases p with
  | value v' =>
    rw [resolve] at h
    cases h
    rw [sources]
    apply List.mem_singleton_self
  | fromVariable name default =>
    rw [resolve] at h
    cases hvar : vars.find? name with
    | some s =>
      simp only [read, hvar] at h
      cases h
      cases htext
    | none =>
      cases default with
      | none =>
        simp only [read, hvar] at h
        cases h
      | some v' =>
        simp only [read, hvar] at h
        cases h
        rw [sources]
        apply List.mem_singleton_self
  | reference r =>
    rw [resolve] at h
    have hfollowed := followed_follow registry site r
    cases hfollow : follow registry site r with
    | error e =>
      rw [hfollow] at h
      cases h
    | ok v' =>
      rw [hfollow] at h hfollowed
      cases h
      cases hfollowed with
      | value found skip property =>
        rw [sources, found, Option.bind_some, property]
        apply List.mem_singleton_self
  | list items =>
    rw [resolve] at h
    split at h
    · cases h
    · cases h
      cases htext
  | failing failure =>
    rw [resolve] at h
    cases h

/-- Where a failure to resolve a parameter comes from. -/
inductive Origin (vars : Variables) (registry : Registry) (site : Site) (p : Parameter) :
    ResolveFailure → Prop where
  /-- The parameter comes to it by itself. -/
  | own {failure : ResolveFailure} (mem : failure ∈ p.failures) :
      Origin vars registry site p failure
  /-- A variable is not set. -/
  | unset (name : String) : Origin vars registry site p (.deploy (site.noVariable name))
  /-- A reference leads to nothing. -/
  | lost {r : Reference} {e : DeployError} (mem : r ∈ p.references)
      (followed : follow registry site r = .error e) : Origin vars registry site p (.deploy e)
  /-- A value has no text. -/
  | unwritten {v : Value} {reason : Unwritable} (mem : v ∈ p.sources registry)
      (format : v.format = .error reason) : Origin vars registry site p (.unwritable reason)

/-- A failure of the first item is one of the list. -/
theorem Origin.head
    {p : Parameter} {failure : ResolveFailure} (h : Origin vars registry site p failure)
    (rest : List Parameter) :
  Origin vars registry site (.list (p :: rest)) failure
  := by
  cases h with
  | own mem =>
    apply Origin.own
    rw [failures, failures.items]
    apply List.mem_append_left _ mem
  | unset name => apply Origin.unset
  | lost mem followed =>
    apply Origin.lost _ followed
    rw [references, references.items]
    apply List.mem_append_left _ mem
  | unwritten mem format =>
    apply Origin.unwritten _ format
    rw [sources, sources.items]
    apply List.mem_append_left _ mem

/-- A failure of the other items is one of the list. -/
theorem Origin.tail
    {rest : List Parameter} {failure : ResolveFailure}
    (h : Origin vars registry site (.list rest) failure) (p : Parameter) :
  Origin vars registry site (.list (p :: rest)) failure
  := by
  cases h with
  | own mem =>
    apply Origin.own
    rw [failures, failures.items]
    apply List.mem_append_right _ mem
  | unset name => apply Origin.unset
  | lost mem followed =>
    apply Origin.lost _ followed
    rw [references, references.items]
    apply List.mem_append_right _ mem
  | unwritten mem format =>
    apply Origin.unwritten _ format
    rw [sources, sources.items]
    apply List.mem_append_right _ mem

mutual

/-- Every failure to resolve a parameter has an origin. -/
theorem origin_of_resolve
    {failure : ResolveFailure} :
    ∀ p : Parameter, p.resolve vars registry site = .error failure →
      Origin vars registry site p failure
  | .value v, h => by
      rw [resolve] at h
      cases h
  | .fromVariable name default, h => by
      rw [resolve] at h
      cases hread : read vars site name default with
      | ok v =>
        rw [hread] at h
        cases h
      | error e =>
        rw [hread] at h
        cases h
        rw [eq_of_read hread]
        apply Origin.unset
  | .reference r, h => by
      rw [resolve] at h
      cases hfollow : follow registry site r with
      | ok v =>
        rw [hfollow] at h
        cases h
      | error e =>
        rw [hfollow] at h
        cases h
        apply Origin.lost _ hfollow
        rw [references]
        apply List.mem_singleton_self
  | .list items, h => by
      rw [resolve] at h
      split at h
      · rename_i hitems
        cases h
        apply origin_of_resolve_items items hitems
      · cases h
  | .failing failure, h => by
      rw [resolve] at h
      cases h
      apply Origin.own
      rw [failures]
      apply List.mem_singleton_self

theorem origin_of_resolve_items
    {failure : ResolveFailure} :
    ∀ items : List Parameter, resolve.items vars registry site items = .error failure →
      Origin vars registry site (.list items) failure
  | [], h => by
      rw [resolve.items] at h
      cases h
  | p :: rest, h => by
      rw [resolve.items] at h
      split at h
      · rename_i hp
        cases h
        apply (origin_of_resolve p hp).head
      · rename_i v hp
        rw [quotedFormat] at h
        cases hformat : v.format with
        | error reason =>
          rw [hformat] at h
          cases h
          have hsource : Origin vars registry site p (.unwritable reason) :=
            .unwritten (mem_sources_of_resolve hp (Value.text?_of_format hformat)) hformat
          apply hsource.head
        | ok s =>
          rw [hformat] at h
          dsimp only at h
          split at h
          · rename_i hrest
            cases h
            apply (origin_of_resolve_items rest hrest).tail
          · cases h

end

/-- A parameter fails by itself, or for a value, or for a reference to something that others
may not refer to. -/
theorem cause_of_resolve
    {failure : ResolveFailure} {p : Parameter} (h : p.resolve vars registry site = .error failure) :
  failure ∈ p.failures ∨ (site.ofFailure failure).IsOfValue
    ∨ ∃ r ∈ p.references, (site.ofFailure failure).IsOfReference registry r
  := by
  cases origin_of_resolve p h with
  | own mem => exact .inl mem
  | unset name => exact .inr (.inl (.inl rfl))
  | lost mem followed =>
    right
    rcases cause_of_follow followed with hvalue | hreference
    · exact .inl hvalue
    · exact .inr ⟨_, mem, hreference⟩
  | unwritten => exact .inr (.inl (.inl rfl))

/-- A parameter with right references fails for a value alone. -/
theorem isOfValue_of_resolve
    {failure : ResolveFailure} {p : Parameter} (hregular : p.isRegular = true)
    (hrefs : ∀ r ∈ p.references, registry.Offers r.target)
    (h : p.resolve vars registry site = .error failure) :
  (site.ofFailure failure).IsOfValue
  := by
  rcases cause_of_resolve h with hown | hvalue | ⟨r, hr, hoffers, -⟩
  · rw [failures_eq_nil p hregular] at hown
    cases hown
  · apply hvalue
  · exact absurd (hrefs r hr) hoffers

end Parameter

/-! ### What an error is about -/

/-- An error is about the parameter that is checked or resolved at a site. -/
structure Site.IsAbout (site : Site) (e : DeployError) : Prop where
  coordinate : e.coordinate = some site.coordinate
  parameter : e.parameter = some site.parameter

theorem Site.isAbout_of_follow
    {registry : Registry} {site : Site} {r : Reference} {e : DeployError}
    (h : Parameter.follow registry site r = .error e) :
  site.IsAbout e
  := by
  have hfollowed := Parameter.followed_follow registry site r
  rw [h] at hfollowed
  cases hfollowed <;> exact ⟨rfl, rfl⟩

/-- An error about a parameter that is checked or resolved at a site: it is about that parameter,
unless the parameter came to it by itself and named another one. -/
def Site.Names (site : Site) (p : Parameter) (e : DeployError) : Prop :=
  e.parameter = some site.parameter
    ∨ ∃ own, .deploy own ∈ p.failures ∧ own.parameter ≠ none ∧ e.parameter = own.parameter

theorem Site.names_ofFailure
    {site : Site} {vars : Variables} {registry : Registry} {p : Parameter}
    {failure : ResolveFailure} (h : p.resolve vars registry site = .error failure) :
  site.Names p (site.ofFailure failure)
  := by
  cases Parameter.origin_of_resolve p h with
  | unset | unwritten => exact .inl rfl
  | lost mem followed =>
    left
    rw [ofFailure, (isAbout_of_follow followed).parameter]
    rfl
  | own mem =>
    cases failure with
    | badValue | badType | unwritable => exact .inl rfl
    | deploy own =>
      rw [ofFailure]
      cases hparameter : own.parameter with
      | none => exact .inl rfl
      | some other =>
        right
        use own, mem
        rw [hparameter]
        exact ⟨Option.some_ne_none other, rfl⟩

/-- Every error of a parameter is about it, unless it came to the error by itself. -/
theorem Site.names_of_settle
    {site : Site} {vars : Variables} {registry : Registry} {p : Parameter}
    {errors : List DeployError} (h : site.settle vars registry p = .error errors) :
  ∀ e ∈ errors, site.Names p e
  := by
  intro e he
  have hsettled := site.settled_settle vars registry p
  rw [h] at hsettled
  cases hsettled with
  | failed checked resolved =>
    obtain rfl := List.mem_singleton.mp he
    apply names_ofFailure resolved
  | rejected =>
    obtain ⟨r, -, hreports⟩ := reports_of_mem he
    exact .inl hreports.parameter

/-- A parameter that reports a config as not deployed refers to one that has left nothing
behind. -/
theorem Site.missing_of_settle
    {site : Site} {registry : Registry} {vars : Variables} {p : Parameter}
    {errors : List DeployError} {e : DeployError} {referenced : Option Coordinate}
    {property : String} (hp : p.isRegular = true) (h : site.settle vars registry p = .error errors)
    (he : e ∈ errors) (hkind : e.kind = .reference .undeployed referenced property) :
  ∃ r ∈ p.references, referenced = some r.target ∧ r.target ≠ site.coordinate
    ∧ registry.find? r.target = none
  := by
  have hsettled := site.settled_settle vars registry p
  rw [h] at hsettled
  cases hsettled with
  | failed checked resolved =>
    obtain rfl := List.mem_singleton.mp he
    have hrefs := fun r hr => (checkReferences_eq_nil_iff.mp checked r hr).2
    rcases Parameter.isOfValue_of_resolve hp hrefs resolved with hvalue | ⟨r, hvalue⟩
    · rw [hvalue] at hkind
      cases hkind
    · rw [hvalue] at hkind
      cases hkind
  | rejected =>
    obtain ⟨r, hr, hreports⟩ := reports_of_mem he
    obtain ⟨problem, htroubles, hproblem⟩ := hreports.kind
    rw [hproblem] at hkind
    cases hkind
    cases htroubles with
    | undeployed other missing => exact ⟨r, hr, rfl, other, missing⟩

end Rollout
