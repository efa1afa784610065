import Mathlib.Data.List.Basic
import Rollout.Proofs.Deploy.Course

/-!
# Registries that agree

A decision reads of a registry only what the references of the config lead to, so it is the
same in front of registries that agree on these.  What the platform says of an object enters
the registry as its id and its name alone, so registries that are the same but for this agree
on all other properties.
-/

namespace Rollout

variable {σ : Type}

/-- What a reference finds in a registry: whether the entity is skipped, and its property. -/
def Registry.read (registry : Registry) (r : Reference) : Option (Bool × Option Value) :=
  (registry.find? r.target).map (fun e => (e.skip, e.properties.find? r.property))

/-! ### Agreement on what is read -/

section

variable {registry registry' : Registry} {vars : Variables} {site : Site}

theorem Registry.find?_of_read
    {r : Reference} (h : registry.read r = registry'.read r) :
  (registry.find? r.target = none ∧ registry'.find? r.target = none)
    ∨ ∃ e e', registry.find? r.target = some e ∧ registry'.find? r.target = some e'
      ∧ e.skip = e'.skip ∧ e.properties.find? r.property = e'.properties.find? r.property
  := by
  rw [read, read] at h
  cases hfind : registry.find? r.target with
  | none =>
    rw [hfind] at h
    exact .inl ⟨rfl, Option.map_eq_none_iff.mp h.symm⟩
  | some e =>
    rw [hfind] at h
    obtain ⟨e', hfind', heq⟩ := Option.map_eq_some_iff.mp h.symm
    obtain ⟨hskip, hproperty⟩ := Prod.mk.inj heq
    exact .inr ⟨e, e', rfl, hfind', hskip.symm, hproperty.symm⟩

theorem Site.check_congr
    {r : Reference} (h : registry.read r = registry'.read r) :
  site.check registry r = site.check registry' r
  := by
  rw [check, check]
  rcases Registry.find?_of_read h with ⟨hnone, hnone'⟩ | ⟨e, e', hsome, hsome', hskip, -⟩
  · rw [hnone, hnone']
  · simp only [hsome, hsome', hskip]

theorem Site.checkReferences_congr
    {p : Parameter} (h : ∀ r ∈ p.references, registry.read r = registry'.read r) :
  site.checkReferences registry p = site.checkReferences registry' p
  := List.filterMap_congr (fun r hr => check_congr (h r hr))

namespace Parameter

theorem follow_congr
    {r : Reference} (h : registry.read r = registry'.read r) :
  follow registry site r = follow registry' site r
  := by
  rw [follow, follow]
  rcases Registry.find?_of_read h
    with ⟨hnone, hnone'⟩ | ⟨e, e', hsome, hsome', hskip, hproperty⟩
  · rw [hnone, hnone']
  · simp only [hsome, hsome', hskip, hproperty]

mutual

theorem resolve_congr :
    ∀ p : Parameter, (∀ r ∈ p.references, registry.read r = registry'.read r) →
      p.resolve vars registry site = p.resolve vars registry' site
  | .value v, _ => by rw [resolve, resolve]
  | .fromVariable name default, _ => by rw [resolve, resolve]
  | .failing failure, _ => by rw [resolve, resolve]
  | .reference r, h => by
      rw [references] at h
      rw [resolve, resolve, follow_congr (h r List.mem_cons_self)]
  | .list items, h => by
      rw [references] at h
      rw [resolve, resolve, resolve_items_congr items h]

theorem resolve_items_congr :
    ∀ items : List Parameter, (∀ r ∈ references.items items, registry.read r = registry'.read r) →
      resolve.items vars registry site items = resolve.items vars registry' site items
  | [], _ => by rw [resolve.items, resolve.items]
  | p :: rest, h => by
      rw [references.items] at h
      obtain ⟨hp, hrest⟩ := List.forall_mem_append.mp h
      rw [resolve.items, resolve.items, resolve_congr p hp, resolve_items_congr rest hrest]

end

mutual

theorem exceeds_congr
    {levels : Nat} :
    ∀ p : Parameter, (∀ r ∈ p.references, registry.read r = registry'.read r) →
      p.exceeds levels vars registry site = p.exceeds levels vars registry' site
  | .value _, _ | .fromVariable _ _, _ | .failing _, _ | .reference _, _ => by
      rw [exceeds.eq_def, exceeds.eq_def]
  | .list items, h => by
      rw [references] at h
      rw [exceeds, exceeds, exceeds_items_congr items h]

theorem exceeds_items_congr
    {levels : Nat} :
    ∀ items : List Parameter, (∀ r ∈ references.items items, registry.read r = registry'.read r) →
      exceeds.items levels vars registry site items = exceeds.items levels vars registry' site items
  | [], _ => by rw [exceeds.items, exceeds.items]
  | p :: rest, h => by
      rw [references.items] at h
      obtain ⟨hp, hrest⟩ := List.forall_mem_append.mp h
      rw [exceeds.items, exceeds.items, exceeds_congr p hp, resolve_congr p hp,
        exceeds_items_congr rest hrest]

end

end Parameter

theorem Site.settle_congr
    {p : Parameter} (h : ∀ r ∈ p.references, registry.read r = registry'.read r) :
  site.settle vars registry p = site.settle vars registry' p
  := by
  rw [settle, settle, checkReferences_congr h, Parameter.resolve_congr p h]

theorem Site.exceeds_congr
    {p : Parameter} (h : ∀ r ∈ p.references, registry.read r = registry'.read r) (levels : Nat) :
  site.exceeds levels vars registry p = site.exceeds levels vars registry' p
  := by
  rw [exceeds, exceeds, checkReferences_congr h, Parameter.exceeds_congr p h]

namespace Config

variable {c : Config}

/-- Two registries agree on everything that a config refers to. -/
def AgreeOn (c : Config) (registry registry' : Registry) : Prop :=
  ∀ r ∈ c.allReferences, registry.read r = registry'.read r

theorem AgreeOn.parameter
    (h : c.AgreeOn registry registry') {name : String} {p : Parameter}
    (hp : (name, p) ∈ c.parameters.entries) :
  ∀ r ∈ p.references, registry.read r = registry'.read r
  := by
  intro r hr
  apply h
  rw [allReferences, List.mem_append, List.mem_flatMap]
  exact .inl ⟨p, List.mem_map_of_mem hp, hr⟩

theorem AgreeOn.skip
    (h : c.AgreeOn registry registry') {p : Parameter} (hp : c.skip = .parameter p) :
  ∀ r ∈ p.references, registry.read r = registry'.read r
  := by
  intro r hr
  apply h
  rw [allReferences, List.mem_append, skipReferences, hp]
  exact .inr hr

theorem AgreeOn.settle
    (h : c.AgreeOn registry registry') {name : String} {p : Parameter}
    (hp : (name, p) ∈ c.parameters.entries) :
  c.settle vars registry name p = c.settle vars registry' name p
  := Site.settle_congr (h.parameter hp)

theorem AgreeOn.isSkipped
    (h : c.AgreeOn registry registry') :
  c.isSkipped vars registry = c.isSkipped vars registry'
  := by
  rw [Config.isSkipped, Config.isSkipped]
  split
  · rfl
  · rename_i p hp
    rw [Config.settle, Config.settle, Site.settle_congr (h.skip hp)]

theorem AgreeOn.skipIsTooDeep
    (h : c.AgreeOn registry registry') (conditions : Conditions) :
  c.skipIsTooDeep conditions registry = c.skipIsTooDeep conditions registry'
  := by
  rw [Config.skipIsTooDeep, Config.skipIsTooDeep]
  congr 1
  funext levels
  rw [skipExceeds, skipExceeds]
  split
  · rfl
  · rename_i p hp
    rw [Site.exceeds_congr (h.skip hp)]

theorem AgreeOn.parametersAreTooDeep
    (h : c.AgreeOn registry registry') (conditions : Conditions) :
  c.parametersAreTooDeep conditions registry = c.parametersAreTooDeep conditions registry'
  := by
  rw [Config.parametersAreTooDeep, Config.parametersAreTooDeep]
  congr 1
  funext levels
  rw [parametersExceed, parametersExceed, Bool.eq_iff_iff, List.any_eq_true, List.any_eq_true]
  apply exists_congr
  rintro ⟨name, p⟩
  apply and_congr_right
  intro hp
  dsimp only
  rw [Site.exceeds_congr (h.parameter hp)]

theorem AgreeOn.values
    (h : c.AgreeOn registry registry') :
  c.values vars registry = c.values vars registry'
  := by
  ext1
  apply List.filterMap_congr
  rintro ⟨name, p⟩ hp
  dsimp only
  rw [h.settle hp]

theorem AgreeOn.parameterErrors
    (h : c.AgreeOn registry registry') :
  c.parameterErrors vars registry = c.parameterErrors vars registry'
  := by
  rw [Config.parameterErrors, Config.parameterErrors, List.append_cancel_left_eq]
  apply List.flatMap_congr
  rintro ⟨name, p⟩ hp
  dsimp only
  rw [errorsOf, errorsOf, h.settle hp]

/-- The decision about a config is the same in front of registries that agree on everything
that it refers to. -/
theorem AgreeOn.decide
    (h : c.AgreeOn registry registry') (conditions : Conditions) (names : NameIndex) :
  c.decide conditions registry names = c.decide conditions registry' names
  := by
  simp only [Config.decide, decideOn, h.isSkipped, h.values, h.parameterErrors, h.skipIsTooDeep,
    h.parametersAreTooDeep]

end Config

end

/-! ### Agreement on outcomes -/

/-- The answer of a client depends on the request alone. -/
def Client.IsStateless (client : Client σ) : Prop :=
  ∀ request state state', (client.upsert request state).1 = (client.upsert request state').1

theorem Plan.answer_congr
    {mode : Mode σ} (hmode : ∀ client, mode = .push client → client.IsStateless)
    (plan : Plan) (c : Config) (state state' : σ) :
  (plan.carryOut mode c state).1 = (plan.carryOut mode c state').1
  := by
  cases mode with
  | validate => rfl
  | push client =>
    simp only [carryOut]
    split
    · rfl
    · apply hmode client rfl

/-- A decision that is carried out with such a client has one outcome, if it has any. -/
theorem Decision.outcome_congr
    {mode : Mode σ} (hmode : ∀ client, mode = .push client → client.IsStateless)
    {d : Decision} {c : Config} {environment : String} {b b' : Books} {s s' : Session σ}
    {o o' : Outcome} (h : (d.carryOut mode c environment b s).result = .ok o)
    (h' : (d.carryOut mode c environment b' s').result = .ok o') :
  o = o'
  := by
  cases d with
  | skip | fail =>
    cases h
    cases h'
    rfl
  | push plan =>
    have hanswer := plan.answer_congr hmode c s.client s'.client
    simp only [carryOut] at h h'
    cases hcarried : plan.carryOut mode c s.client with
    | mk answer state =>
      cases hcarried' : plan.carryOut mode c s'.client with
      | mk answer' state' =>
        rw [hcarried, hcarried'] at hanswer
        obtain rfl : answer = answer' := hanswer
        rw [hcarried] at h
        rw [hcarried'] at h'
        cases answer with
        | error cause =>
          cases h
          cases h'
          rfl
        | ok remote =>
          dsimp only at h h'
          split at h
          · split at h'
            · cases h
              cases h'
              rfl
            · cases h'
          · cases h

namespace Config

variable {c : Config} {conditions : Conditions} {registry : Registry}

/-- A name is judged as if none were taken, or it is a duplicate. -/
theorem isDuplicate_cases
    (names : NameIndex) (route : Route) (name : Option String) :
  isDuplicate names route name = isDuplicate .empty route name
    ∨ ∃ e, isDuplicate names route name = .ok (some e)
  := by
  cases route with
  | settings | byId | entity | automation => exact .inl rfl
  | byName api =>
    cases name with
    | none => exact .inl rfl
    | some name =>
      simp only [isDuplicate]
      cases names.has api.id name with
      | false => exact .inl rfl
      | true => exact .inr ⟨_, rfl⟩

/-- A config is decided about as if no names were taken, or it is reported as a duplicate. -/
theorem decide_cases
    (c : Config) (conditions : Conditions) (registry : Registry) (names : NameIndex) :
  c.decide conditions registry names = c.decide conditions registry .empty
    ∨ ∃ variant e, c.decide conditions registry names = .ok (.fail variant [e])
      ∧ e.kind = .duplicateName
  := by
  simp only [Config.decide]
  split
  · exact .inl rfl
  · cases c.isSkipped conditions.vars registry with
    | error errors => exact .inl rfl
    | ok skipped =>
      cases skipped with
      | true => exact .inl rfl
      | false =>
        cases c.target.route? conditions.catalog with
        | none => exact .inl rfl
        | some route =>
          simp only [decideOn]
          split
          · exact .inl rfl
          · split
            · exact .inl rfl
            · split
              · simp only [decideResolved]
                rcases isDuplicate_cases names route
                  (c.nameOn route (c.values conditions.vars registry)).toOption.join
                  with hsame | ⟨e, hduplicate⟩
                · left
                  rw [hsame]
                · right
                  rw [hduplicate]
                  exact ⟨_, e, rfl, kind_of_isDuplicate hduplicate⟩
              · exact .inl rfl

/-- The names that are taken are of no account for a config that is not reported as a
duplicate. -/
theorem decide_of_not_duplicate
    {mode : Mode σ} {environment : String} {b : Books} {s : Session σ} {o : Outcome}
    (h : (c.deploy conditions mode environment b s).result = .ok o)
    (hfree : ∀ e ∈ o.errors, e.kind ≠ .duplicateName) :
  c.decide conditions b.registry b.names = c.decide conditions b.registry .empty
  := by
  rcases c.decide_cases conditions b.registry b.names with hsame | ⟨variant, e, hfail, hkind⟩
  · apply hsame
  · simp only [deploy, hfail] at h
    cases h
    exact absurd hkind (hfree (e.stamp c.coordinate environment) (List.mem_singleton_self _))

/-- With a client whose answers depend on the requests alone, a config that is not reported as
a duplicate has one outcome in front of all registries that agree on what it refers to. -/
theorem AgreeOn.outcome
    {mode : Mode σ} (hmode : ∀ client, mode = .push client → client.IsStateless)
    {environment : String} {b b' : Books} {s s' : Session σ} {o o' : Outcome}
    (hagree : c.AgreeOn b.registry b'.registry)
    (h : (c.deploy conditions mode environment b s).result = .ok o)
    (hfree : ∀ e ∈ o.errors, e.kind ≠ .duplicateName)
    (h' : (c.deploy conditions mode environment b' s').result = .ok o')
    (hfree' : ∀ e ∈ o'.errors, e.kind ≠ .duplicateName) :
  o = o'
  := by
  have hdecide : c.decide conditions b.registry b.names
      = c.decide conditions b'.registry b'.names := by
    rw [decide_of_not_duplicate h hfree, decide_of_not_duplicate h' hfree', hagree.decide]
  simp only [deploy] at h h'
  rw [← hdecide] at h'
  cases hdecision : c.decide conditions b.registry b.names with
  | error fault =>
    rw [hdecision] at h
    cases h
  | ok d =>
    rw [hdecision] at h h'
    apply Decision.outcome_congr hmode h h'

end Config

/-! ### What the platform has no part in -/

/-- An entity without what the platform says of it. -/
def Entity.outline (e : Entity) : Entity :=
  { e with name := "", properties := (e.properties.erase nameParameter).erase idProperty }

def Registry.outline (registry : Registry) : Registry :=
  registry.map Entity.outline

def Books.outline (b : Books) : Books :=
  { b with registry := b.registry.outline }

/-- An outcome without the entity. -/
def Outcome.verdict (o : Outcome) : Outcome :=
  { o with entity := none }

/-- A config that reads no remote id and no remote name. -/
def Config.IsLocal (c : Config) : Prop :=
  ∀ r ∈ c.allReferences, r.property ≠ idProperty ∧ r.property ≠ nameParameter

/-- A property that the platform has no part in is read alike from registries with the same
outline. -/
theorem Registry.read_congr
    {registry registry' : Registry} (h : registry.outline = registry'.outline) {r : Reference}
    (hid : r.property ≠ idProperty) (hname : r.property ≠ nameParameter) :
  registry.read r = registry'.read r
  := by
  have houtline : ∀ registry : Registry, registry.read r
      = (registry.outline.find? r.target).map
        (fun e => (e.skip, e.properties.find? r.property)) := by
    intro registry
    rw [read, outline, Table.find?_map, Option.map_map]
    congr 1
    funext e
    simp [Entity.outline, hid, hname]
  rw [houtline, houtline, h]

theorem Config.IsLocal.agreeOn
    {c : Config} (h : c.IsLocal) {b b' : Books} (hbooks : b.outline = b'.outline) :
  c.AgreeOn b.registry b'.registry
  := by
  intro r hr
  obtain ⟨hid, hname⟩ := h r hr
  apply Registry.read_congr (congrArg Books.registry hbooks) hid hname

theorem Books.outline_eq_iff
    {b b' : Books} :
  b.outline = b'.outline
    ↔ b.registry.map Entity.outline = b'.registry.map Entity.outline ∧ b.names = b'.names
  := by
  rw [outline, outline, Books.mk.injEq]
  rfl

/-- What the platform answers does not show in the outline of the books. -/
theorem Books.outline_addDeployed
    {b b' : Books} (h : b.outline = b'.outline) (c : Config) (plan : Plan)
    (remote remote' : RemoteEntity) :
  (b.addDeployed c plan remote).outline = (b'.addDeployed c plan remote').outline
  := by
  obtain ⟨hregistry, hnames⟩ := outline_eq_iff.mp h
  have hentity : ∀ remote, (c.deployedEntity plan remote).outline
      = ⟨"", c.coordinate, (plan.properties.erase idProperty).erase nameParameter, false⟩ := by
    intro remote
    simp only [Entity.outline, Config.deployedEntity, Table.erase_insert]
    rw [Table.erase_comm, Table.erase_insert]
  simp only [outline, addDeployed, Registry.outline, Table.map_insert, hregistry, hnames, hentity]

theorem Books.outline_addSkipped
    {b b' : Books} (h : b.outline = b'.outline) (c : Config) :
  (b.addSkipped c).outline = (b'.addSkipped c).outline
  := by
  obtain ⟨hregistry, hnames⟩ := outline_eq_iff.mp h
  simp only [outline, addSkipped, Registry.outline, Table.map_insert, hregistry, hnames]

/-! ### Validating in the place of pushing -/

/-- A client answers every request that it may get in a state. -/
def Client.Answers (client : Client σ) (state : σ) : Prop :=
  ∀ request, ∃ remote state', client.upsert request state = (.ok remote, state')

namespace Config

variable {c : Config} {conditions : Conditions} {registry : Registry} {names : NameIndex}

/-- The scope of a settings config has a text, if it has a value. -/
def HasWritableScope (c : Config) (vars : Variables) (registry : Registry) : Prop :=
  c.target.isSettings = true → ∀ scope, (c.values vars registry).find? scopeParameter = some scope →
    ∃ text, scope.display = .ok text

/-- There is a request for a config that passes every check, unless its scope has no text. -/
theorem Passes.exists_request
    {plan : Plan} (h : c.Passes conditions registry names plan)
    (hscope : c.HasWritableScope conditions.vars registry) :
  ∃ request, plan.request c.coordinate = .ok request
  := by
  rcases h.toClears.request_cases h.properties
    with hrequest | ⟨scope, reason, hsettings, hvalue, hdisplay, -⟩
  · apply hrequest
  · obtain ⟨text, htext⟩ := hscope hsettings scope hvalue
    rw [htext] at hdisplay
    cases hdisplay

variable {environment : String} {b b' : Books} {s s' : Session σ} {client : Client σ}
  {o : Outcome}

/-- If a config has an outcome from a client that answers, then its validation has the same
outcome, but for the entity, and leaves books with the same outline. -/
theorem validate_of_push
    (hlocal : c.IsLocal) (hbooks : b.outline = b'.outline) (hanswers : client.Answers s.client)
    (hscope : c.HasWritableScope conditions.vars b.registry)
    (h : (c.deploy conditions (.push client) environment b s).result = .ok o) :
  ∃ o', (c.deploy conditions .validate environment b' s').result = .ok o'
    ∧ o.verdict = o'.verdict
    ∧ (c.deploy conditions (.push client) environment b s).books.outline
      = (c.deploy conditions .validate environment b' s').books.outline
  := by
  have hdecide : c.decide conditions b'.registry b'.names
      = c.decide conditions b.registry b.names := by
    rw [(hlocal.agreeOn hbooks).decide, (Books.outline_eq_iff.mp hbooks).2]
  simp only [deploy, hdecide] at h ⊢
  cases hdecision : c.decide conditions b.registry b.names with
  | error fault =>
    rw [hdecision] at h
    cases h
  | ok decision =>
    rw [hdecision] at h
    cases decision with
    | skip =>
      cases h
      exact ⟨_, rfl, rfl, Books.outline_addSkipped hbooks c⟩
    | fail variant errors =>
      cases h
      exact ⟨_, rfl, rfl, hbooks⟩
    | push plan =>
      obtain ⟨request, hrequest⟩ := (passes_of_decide hdecision).exists_request hscope
      obtain ⟨remote, state, hanswer⟩ := hanswers request
      have hcarried : plan.carryOut (.push client) c
          (s.tell (c.notices conditions b.registry)).client = (.ok remote, state) := by
        simp only [Plan.carryOut, hrequest]
        apply hanswer
      simp only [Decision.carryOut, hcarried] at h ⊢
      split at h
      · cases h
        exact ⟨_, rfl, rfl, Books.outline_addDeployed hbooks c plan _ _⟩
      · cases h

end Config

end Rollout
