import Rollout.Proofs.Deploy.Agreement
import Rollout.Proofs.Deploy.Names

/-!
# What is asked of the platform

A config that passes every check is pushed by one request.  The request is of the kind that
the config leads to, it names the object of the config, and it carries the template filled
with the values of the parameters.  Whether it was made shows in the outcome.
-/

namespace Rollout

variable {σ : Type}

/-- The word for the operation that a kind of request asks for. -/
def Variant.operation : Variant → String
  | .settings => "settings"
  | .classicUnique => "by_name"
  | .classicNonUnique => "by_entity_id"
  | .entity => "entity"
  | .automation => "automation"

namespace Config

variable {c : Config} {conditions : Conditions} {registry : Registry} {names : NameIndex}
  {plan : Plan}

/-! ### The request for a config -/

/-- The kind of request that a config leads to, the family of objects that its object belongs
to, and what identifies the object there. -/
inductive Addresses (c : Config) (conditions : Conditions) (registry : Registry) :
    Variant → String → String → Prop where
  /-- A settings object goes by its external id. -/
  | settings {schemaId schemaVersion : String}
      (target : c.target = .settings schemaId schemaVersion) :
      Addresses c conditions registry .settings schemaId (Identity.externalId c.coordinate)
  /-- Where names are unique, a classic config goes by its name. -/
  | classicUnique {id name : String} {api : Api} (target : c.target = .classic id)
      (known : conditions.catalog.find? id = some api) (unique : api.requiresUniqueName = true)
      (named : c.name (c.values conditions.vars registry) = .ok name) :
      Addresses c conditions registry .classicUnique api.id name
  /-- Where names are not unique, a classic config goes by the generated id. -/
  | classicNonUnique {id : String} {api : Api} (target : c.target = .classic id)
      (known : conditions.catalog.find? id = some api) (shared : api.requiresUniqueName = false) :
      Addresses c conditions registry .classicNonUnique api.id (Identity.uuid c.coordinate)
  /-- A custom entity goes by the generated id. -/
  | entity {entitiesType : String} (target : c.target = .entity entitiesType) :
      Addresses c conditions registry .entity entitiesType (Identity.uuid c.coordinate)
  /-- An automation resource goes by the generated id. -/
  | automation {resource : String} (target : c.target = .automation resource) :
      Addresses c conditions registry .automation resource (Identity.uuid c.coordinate)

/-- A request asks for a config: it is of the right kind, it names the object of the config,
and its payload is JSON, made of the template and the values of the parameters. -/
structure Asks (c : Config) (conditions : Conditions) (registry : Registry) (variant : Variant)
    (request : Request) : Prop where
  operation : request.operation = variant.operation
  address : c.Addresses conditions registry variant request.family request.identity
  payload : c.template.render conditions.vars (c.values conditions.vars registry).escape
    = .ok request.payload
  json : ∃ json, Json.parse request.payload.toList = .ok json

/-- The request for a config that passes every check asks for it. -/
theorem Passes.asks
    (h : c.Passes conditions registry names plan) {request : Request}
    (hrequest : plan.request c.coordinate = .ok request) :
  c.Asks conditions registry plan.route.variant request
  := by
  obtain ⟨hrender, hjson⟩ := render_of_payload h.payload
  rw [h.properties] at hrender
  have hway := h.way
  rw [Plan.request] at hrequest
  cases htarget : c.target with
  | settings schemaId schemaVersion =>
    rw [htarget] at hway
    have hroute : plan.route = .settings schemaId schemaVersion := (Option.some.inj hway).symm
    rw [hroute] at hrequest ⊢
    dsimp only at hrequest
    split at hrequest
    · cases hrequest
    · split at hrequest
      · cases hrequest
      · cases hrequest
        refine ⟨rfl, ?_, hrender, hjson⟩
        -- Reduced first: unifying the identities would compute the external id.
        simp only [Route.variant, Request.family, Request.identity]
        exact .settings htarget
  | classic id =>
    rw [htarget, Target.route?, Option.map_eq_some_iff] at hway
    obtain ⟨api, hknown, hroute⟩ := hway
    split at hroute
    · rename_i hunique
      rw [← hroute] at hrequest ⊢
      dsimp only at hrequest
      split at hrequest
      · cases hrequest
      · rename_i name hname
        cases hrequest
        have hnamed := h.name_eq hname
        rw [h.properties] at hnamed
        exact ⟨rfl, .classicUnique htarget hknown hunique hnamed, hrender, hjson⟩
    · rename_i hshared
      rw [← hroute] at hrequest ⊢
      dsimp only at hrequest
      split at hrequest
      · cases hrequest
      · cases hrequest
        exact ⟨rfl, .classicNonUnique htarget hknown (by simpa using hshared), hrender, hjson⟩
  | entity entitiesType =>
    rw [htarget] at hway
    have hroute : plan.route = .entity entitiesType := (Option.some.inj hway).symm
    rw [hroute] at hrequest ⊢
    cases hrequest
    exact ⟨rfl, .entity htarget, hrender, hjson⟩
  | automation resource =>
    rw [htarget] at hway
    have hroute : plan.route = .automation resource := (Option.some.inj hway).symm
    rw [hroute] at hrequest ⊢
    cases hrequest
    exact ⟨rfl, .automation htarget, hrender, hjson⟩

end Config

/-! ### Errors that no check comes to -/

/-- The kinds of errors that no check of a config comes to: those of requests and of loops. -/
def ErrorKind.IsBeyondChecks : ErrorKind → Prop
  | .remoteCall _ => True
  | .cycle _ => True
  | _ => False

/-- An error in the value of a parameter is about some parameter. -/
theorem Site.parameter_of_settle
    {site : Site} {registry : Registry} {vars : Variables} {p : Parameter}
    {errors : List DeployError} (h : site.settle vars registry p = .error errors)
    {e : DeployError} (he : e ∈ errors) :
  e.parameter ≠ none
  := by
  rcases names_of_settle h e he with hsite | ⟨own, -, hnone, hown⟩
  · rw [hsite]
    apply Option.some_ne_none
  · rw [hown]
    apply hnone

namespace Config

variable {c : Config} {conditions : Conditions} {registry : Registry} {names : NameIndex}

theorem parameter_of_parameterErrors
    {vars : Variables} {e : DeployError} (he : e ∈ c.parameterErrors vars registry) :
  e.parameter ≠ none
  := by
  rcases mem_parameterErrors he with ⟨-, hscope⟩ | ⟨name, p, errors, hp, hsettle, hmem⟩
  · rw [hscope.parameter]
    apply Option.some_ne_none
  · apply Site.parameter_of_settle hsettle hmem

/-- An objection that reports a request or a loop is raised by a parameter, and it is about
that parameter. -/
theorem Objection.raises
    {variant : Option Variant} {errors : List DeployError}
    (h : c.Objection conditions registry names variant errors) {e : DeployError}
    (he : e ∈ errors) (hkind : e.kind.IsBeyondChecks) :
  c.Raises e.kind ∧ e.parameter ≠ none
  := by
  have hforeign : ¬ e.kind.IsOfResolution := by
    intro hresolution
    cases hcase : e.kind with
    | remoteCall | cycle =>
      rw [hcase] at hresolution
      exact hresolution
    | _ =>
      rw [hcase] at hkind
      exact hkind
  cases h with
  | skip hskip hsettle =>
    exact ⟨.inr ⟨_, hskip, Site.raises_of_settle hsettle he hforeign⟩,
      Site.parameter_of_settle hsettle he⟩
  | parameters arrives fits ne_nil =>
    rcases List.mem_append.mp he with hparameters | hname
    · exact ⟨raises_of_parameterErrors hparameters hforeign,
        parameter_of_parameterErrors hparameters⟩
    · rcases kind_of_nameErrors hname with hname | hname
      all_goals
        rw [hname] at hkind
        cases hkind
  | unknownApi | automation =>
    obtain rfl := List.mem_singleton.mp he
    cases hkind
  | duplicate way named taken =>
    obtain rfl := List.mem_singleton.mp he
    rw [kind_of_isDuplicate taken] at hkind
    cases hkind
  | payload way payload =>
    obtain rfl := List.mem_singleton.mp he
    rcases kind_of_payload payload with ⟨templateId, key, hpayload⟩ | hpayload
    all_goals
      rw [hpayload] at hkind
      cases hkind

end Config

/-! ### Configs that are pushed -/

/-- An error of a request that was made for a config: it is about no parameter, unlike an
error of this kind that a parameter raises. -/
def DeployError.isOfRequest (e : DeployError) : Bool :=
  match e.kind with
  | .remoteCall _ => e.parameter.isNone
  | _ => false

/-- A request was made for a config: the config is deployed, or it has failed with the error
of the request. -/
def Outcome.isPushed (o : Outcome) : Bool :=
  o.state = .deployed || o.state = .failed && o.errors.any DeployError.isOfRequest

theorem DeployError.isOfRequest_iff
    {e : DeployError} :
  e.isOfRequest = true ↔ (∃ cause, e.kind = .remoteCall cause) ∧ e.parameter = none
  := by
  rw [isOfRequest]
  cases e.kind <;> simp

theorem Outcome.isPushed_iff
    {o : Outcome} :
  o.isPushed = true ↔ o.state = .deployed
    ∨ o.state = .failed ∧ ∃ e ∈ o.errors, (∃ cause, e.kind = .remoteCall cause) ∧ e.parameter = none
  := by
  simp [isPushed, DeployError.isOfRequest_iff]

namespace Config

variable {c : Config} {conditions : Conditions} {mode : Mode σ} {environment : String} {b : Books}
  {s : Session σ} {d : Deployed σ} {o : Outcome}

/-- No request is made for a config that there is an objection against. -/
theorem Objection.isPushed
    {variant : Option Variant} {errors : List DeployError}
    (h : c.Objection conditions b.registry b.names variant errors) (environment : String) :
  (c.failedOutcome environment variant errors).isPushed = false
  := by
  apply Bool.eq_false_iff.mpr
  intro hpushed
  rcases Outcome.isPushed_iff.mp hpushed with hstate | ⟨-, e, he, ⟨cause, hkind⟩, hparameter⟩
  · cases hstate
  · obtain ⟨own, hown, rfl⟩ := List.mem_map.mp he
    have hbeyond : own.kind.IsBeyondChecks := by
      have hown : own.kind = .remoteCall cause := hkind
      rw [hown]
      trivial
    exact (h.raises hown hbeyond).2 hparameter

/-- A config that is pushed with a client is asked for once, by a request of its own, and any
other one is not asked for at all. -/
theorem Course.pushed
    {client : Client σ} (hcourse : c.Course conditions (.push client) environment b s d)
    (h : d.result = .ok o) (hscope : c.HasWritableScope conditions.vars b.registry) :
  (o.isPushed = false ∧ d.session.client = s.client)
    ∨ o.isPushed = true ∧ ∃ variant request, o.variant = some variant
      ∧ c.Asks conditions b.registry variant request
      ∧ d.session.client = (client.upsert request s.client).2
  := by
  have hcarry : ∀ {plan : Plan} {request : Request} {answer state},
      plan.request c.coordinate = .ok request →
        plan.carryOut (.push client) c s.client = (answer, state) →
          state = (client.upsert request s.client).2 := by
    intro plan request answer state hrequest hcarried
    simp only [Plan.carryOut, hrequest] at hcarried
    rw [hcarried]
  cases hcourse with
  | fault => cases h
  | unwritten => cases h
  | skipped =>
    cases h
    exact .inl ⟨rfl, rfl⟩
  | failed objection =>
    cases h
    exact .inl ⟨objection.isPushed environment, rfl⟩
  | refused passes carried =>
    cases h
    obtain ⟨request, hrequest⟩ := passes.exists_request hscope
    exact .inr ⟨rfl, _, request, rfl, passes.asks hrequest, hcarry hrequest carried⟩
  | deployed passes carried kept =>
    cases h
    obtain ⟨request, hrequest⟩ := passes.exists_request hscope
    refine .inr ⟨rfl, _, request, rfl, passes.asks hrequest, ?_⟩
    rw [Session.client_of_keepStub kept]
    apply hcarry hrequest carried

/-- Unless a parameter raises the error of a request, a config is pushed exactly if it is
deployed or has failed with such an error. -/
theorem Course.isPushed_iff
    (hcourse : c.Course conditions mode environment b s d) (h : d.result = .ok o)
    (hraises : ∀ cause, ¬ c.Raises (.remoteCall cause)) :
  o.isPushed = true ↔ o.state = .deployed
    ∨ o.state = .failed ∧ ∃ e ∈ o.errors, ∃ cause, e.kind = .remoteCall cause
  := by
  constructor
  · intro hpushed
    rcases Outcome.isPushed_iff.mp hpushed with hstate | ⟨hstate, e, he, hkind, -⟩
    · exact .inl hstate
    · exact .inr ⟨hstate, e, he, hkind⟩
  · rintro (hstate | ⟨hstate, e, he, cause, hkind⟩)
    · apply Outcome.isPushed_iff.mpr (.inl hstate)
    · cases hcourse with
      | fault => cases h
      | unwritten => cases h
      | skipped | deployed =>
        cases h
        cases hstate
      | failed objection =>
        cases h
        obtain ⟨own, hown, rfl⟩ := List.mem_map.mp he
        have hown' : own.kind = .remoteCall cause := hkind
        have hraised := (objection.raises hown (by rw [hown']; trivial)).1
        rw [hown'] at hraised
        exact absurd hraised (hraises cause)
      | refused =>
        cases h
        rfl

/-- A config that is reported as standing in a loop has a parameter that comes up with such an
error. -/
theorem Course.raises_of_cycle
    (hcourse : c.Course conditions mode environment b s d) (h : d.result = .ok o)
    {e : DeployError} (he : e ∈ o.errors) {members : List Coordinate}
    (hkind : e.kind = .cycle members) :
  c.Raises (.cycle members)
  := by
  cases hcourse with
  | fault | unwritten => cases h
  | skipped | deployed =>
    cases h
    cases he
  | failed objection =>
    cases h
    obtain ⟨own, hown, rfl⟩ := List.mem_map.mp he
    have hcycle : own.kind = .cycle members := hkind
    rw [← hcycle]
    apply (objection.raises hown _).1
    rw [hcycle]
    trivial
  | refused =>
    cases h
    obtain ⟨own, hown, rfl⟩ := List.mem_map.mp he
    obtain rfl := List.mem_singleton.mp hown
    cases hkind

end Config

end Rollout
