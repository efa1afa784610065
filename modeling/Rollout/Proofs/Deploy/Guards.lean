import Rollout.Proofs.Deploy.Requests
import Rollout.Proofs.Deploy.Together

/-!
# What is taken for granted

Where a config is compared with the names that are taken, pushed and entered into the books, some
things are taken for granted: a classic config has a name and its API is known, a settings object
has a scope, and the request is of the right kind.  They follow from the checks before, so none of
them ever fails, and none hides in the error of a request.  A classic config without a name is
reported as soon as its parameters are resolved.
-/

namespace Rollout

variable {σ : Type}

namespace Config

variable {c : Config} {conditions : Conditions} {registry : Registry} {names : NameIndex}
  {route : Route} {name : Option String}

/-! ### How far a config comes -/

/-- What holds of a config that nothing is wrong with up to its name, from there on. -/
structure Secured (c : Config) (conditions : Conditions) (b : Books) (route : Route)
    (name : Option String) : Prop where
  /-- The next thing is to compare it with the names that are taken. -/
  next : c.decide conditions b.registry b.names
    = c.decideResolved conditions b.names route (c.values conditions.vars b.registry) name
  fits : c.target.fits route.variant = true
  /-- A classic config has a known API, and a text for its name. -/
  classic : ∀ api, route.api? = some api → ∃ id n, c.target = .classic id
    ∧ conditions.catalog.find? id = some api ∧ name = some n
    ∧ c.name (c.values conditions.vars b.registry) = .ok n
  scope : route.variant = .settings →
    ∃ scope, (c.values conditions.vars b.registry).find? scopeParameter = some scope
  /-- The comparison does not fail. -/
  compared : ∃ taken, isDuplicate b.names route name = .ok taken
  /-- Whatever its payload, there is a request for it, unless its scope has no text. -/
  request : ∀ payload,
    (∃ request, Plan.request ⟨route, name, c.values conditions.vars b.registry, payload⟩
        c.coordinate = .ok request)
      ∨ ∃ scope reason, c.target.isSettings = true
        ∧ (c.values conditions.vars b.registry).find? scopeParameter = some scope
        ∧ scope.display = .error reason
        ∧ Plan.request ⟨route, name, c.values conditions.vars b.registry, payload⟩ c.coordinate
          = .error (.unwritable reason)
  /-- If names are unique in its API, it takes its name when it is deployed. -/
  registers : ∀ api, route = .byName api → ∃ n, name = some n ∧ ∀ payload remote,
    (b.addDeployed c ⟨route, name, c.values conditions.vars b.registry, payload⟩ remote).names
      = b.names.add api.id n

/-- Only a config that comes so far is pushed. -/
theorem clears_of_decide
    {plan : Plan} (h : c.decide conditions registry names = .ok (.push plan)) :
  c.Clears conditions registry plan.route plan.name
    ∧ plan.properties = c.values conditions.vars registry
  := by
  have hpasses := passes_of_decide h
  exact ⟨hpasses.toClears, hpasses.properties⟩

/-- The way of a config is through its own API. -/
theorem Clears.exists_name
    (h : c.Clears conditions registry route name) {api : Api} (hapi : route.api? = some api) :
  ∃ n, name = some n ∧ c.name (c.values conditions.vars registry) = .ok n
  := by
  obtain ⟨n, rfl⟩ := exists_name_of_nameOn h.errors hapi h.named
  exact ⟨n, rfl, name_of_nameOn h.named⟩

/-- Everything that is taken for granted holds. -/
theorem Clears.secured
    {b : Books} (h : c.Clears conditions b.registry route name) :
  c.Secured conditions b route name
  := by
  constructor
  · apply h.decide_eq
  · apply Target.fits_of_route h.way
  · intro api hapi
    obtain ⟨id, htarget, hknown⟩ := Target.classic_of_route h.way hapi
    obtain ⟨n, hn, hname⟩ := h.exists_name hapi
    exact ⟨id, n, htarget, hknown, hn, hname⟩
  · intro hsettings
    apply exists_scope h.errors (Target.isSettings_of_route h.way hsettings)
  · apply h.exists_isDuplicate
  · intro payload
    apply Clears.request_cases h rfl
  · rintro api rfl
    obtain ⟨n, rfl, -⟩ := h.exists_name rfl
    exact ⟨n, rfl, fun payload remote => rfl⟩

/-! ### Where errors come from -/

/-- An error is reported by the decision about a config, or for the failure to carry it out. -/
inductive Reported (c : Config) (conditions : Conditions) (mode : Mode σ) (environment : String)
    (b : Books) (s : Session σ) : DeployError → Prop where
  | decided {variant : Option Variant} {errors : List DeployError} {e : DeployError}
      (decided : c.decide conditions b.registry b.names = .ok (.fail variant errors))
      (mem : e ∈ errors) :
      Reported c conditions mode environment b s (e.stamp c.coordinate environment)
  | refused {plan : Plan} {message : String}
      (decided : c.decide conditions b.registry b.names = .ok (.push plan))
      (carried : (plan.carryOut mode c s.client).1 = .error message) :
      Reported c conditions mode environment b s
        ((remoteError plan.route message).stamp c.coordinate environment)

theorem reported_of_deploy
    {mode : Mode σ} {environment : String} {b : Books} {s : Session σ} {o : Outcome}
    (h : (c.deploy conditions mode environment b s).result = .ok o) {e : DeployError}
    (he : e ∈ o.errors) :
  c.Reported conditions mode environment b s e
  := by
  simp only [deploy] at h
  cases hdecide : c.decide conditions b.registry b.names with
  | error fault =>
    rw [hdecide] at h
    cases h
  | ok decision =>
    rw [hdecide] at h
    cases decision with
    | skip =>
      cases h
      cases he
    | fail variant errors =>
      cases h
      obtain ⟨own, hown, rfl⟩ := List.mem_map.mp he
      exact .decided hdecide hown
    | push plan =>
      simp only [Decision.carryOut, Session.tell] at h
      cases hcarry : plan.carryOut mode c s.client with
      | mk answer state =>
        rw [hcarry] at h
        cases answer with
        | error message =>
          cases h
          obtain ⟨own, hown, rfl⟩ := List.mem_map.mp he
          obtain rfl := List.mem_singleton.mp hown
          apply Reported.refused hdecide
          rw [hcarry]
        | ok remote =>
          dsimp only at h
          split at h
          · cases h
            cases he
          · cases h

/-- The message of what the request for a config fails for: the client refuses it, or its scope
has no text. -/
inductive Refused (c : Config) (conditions : Conditions) (mode : Mode σ) (b : Books)
    (s : Session σ) : String → Prop where
  | client {client : Client σ} {plan : Plan} {request : Request} {message : String}
      (push : mode = .push client)
      (decided : c.decide conditions b.registry b.names = .ok (.push plan))
      (asked : plan.request c.coordinate = .ok request)
      (answer : (client.upsert request s.client).1 = .error message) :
      Refused c conditions mode b s message
  | scope {client : Client σ} {plan : Plan} {scope : Value} {reason : Unwritable}
      (push : mode = .push client)
      (decided : c.decide conditions b.registry b.names = .ok (.push plan))
      (settings : c.target.isSettings = true)
      (bound : plan.properties.find? scopeParameter = some scope)
      (display : scope.display = .error reason) :
      Refused c conditions mode b s reason.message

/-- A plan that cannot be carried out is refused. -/
theorem refused_of_carryOut
    {mode : Mode σ} {b : Books} {s : Session σ} {plan : Plan} {message : String}
    (hdecide : c.decide conditions b.registry b.names = .ok (.push plan))
    (h : (plan.carryOut mode c s.client).1 = .error message) :
  c.Refused conditions mode b s message
  := by
  cases mode with
  | validate => cases h
  | push client =>
    have hpasses := passes_of_decide hdecide
    simp only [Plan.carryOut] at h
    rcases hpasses.toClears.request_cases hpasses.properties
      with ⟨request, hrequest⟩ | ⟨scope, reason, hsettings, hscope, hdisplay, hrequest⟩
    · rw [hrequest] at h
      exact .client rfl hdecide hrequest h
    · rw [hrequest] at h
      cases h
      rw [← hpasses.properties] at hscope
      exact .scope rfl hdecide hsettings hscope hdisplay

/-- Only a path ends a run where a deployed object is recorded. -/
theorem keepStub_ne_broken
    (s : Session σ) (mode : Mode σ) (c : Config) (plan : Plan) (remote : RemoteEntity) :
  (s.keepStub mode c plan remote).2 ≠ some .broken
  := by
  rw [Session.keepStub.eq_def]
  split
  · split
    · dsimp only
      split
      · simp
      · simp
    · simp
  · simp

/-- No deployment ends because something is broken. -/
theorem deploy_ne_broken
    (c : Config) (conditions : Conditions) (mode : Mode σ) (environment : String) (b : Books)
    (s : Session σ) :
  (c.deploy conditions mode environment b s).result ≠ .error .broken
  := by
  intro hbroken
  have hcourse := c.course_deploy conditions mode environment b s
  generalize c.deploy conditions mode environment b s = d at hbroken hcourse
  cases hcourse with
  | fault decided =>
    cases hbroken
    rcases (decide_eq_error_iff.mp decided).fault_cases with hfault | hfault <;> cases hfault
  | unwritten passes carried kept =>
    cases hbroken
    apply keepStub_ne_broken _ _ _ _ _ (congrArg Prod.snd kept)
  | skipped | failed | refused | deployed => cases hbroken

/-! ### Configs without a name -/

/-- A classic config comes to the resolution of its parameters, which there is room for, without
declaring a name. -/
structure LacksName (c : Config) (conditions : Conditions) (registry : Registry) : Prop where
  arrives : ∃ route api, c.Arrives conditions registry route ∧ route.api? = some api
  fits : c.parametersAreTooDeep conditions registry = false
  undeclared : c.hasName = false

/-- The name is reported as missing of classic configs alone that do not declare one. -/
theorem undeclared_of_nameOn
    {e : DeployError} (h : c.nameOn route (c.values conditions.vars registry) = .error e)
    (hkind : e.kind = .noName) :
  c.hasName = false ∧ ∃ api, route.api? = some api
  := by
  obtain ⟨hname, hresolved⟩ := name_of_nameOn_eq_error h
  obtain ⟨-, ⟨-, hkeys⟩ | ⟨htype, -⟩⟩ := name_eq_error hname
  · have hcontains : (c.values conditions.vars registry).contains nameParameter = false := by
      rw [← Bool.not_eq_true, Table.contains_iff_mem_keys]
      exact hkeys
    constructor
    · simpa [nameIsUnresolved, hcontains] using hresolved
    · cases hapi : route.api? with
      | some api => exact ⟨api, rfl⟩
      | none =>
        simp only [nameOn, hapi, hcontains] at h
        cases h
  · rw [htype] at hkind
    cases hkind

/-- A name that is reported as missing is that of a config that lacks one, unless a parameter comes
up with the report by itself. -/
theorem lacksName_of_decide
    {variant : Option Variant} {errors : List DeployError} {e : DeployError}
    (h : c.decide conditions registry names = .ok (.fail variant errors)) (he : e ∈ errors)
    (hkind : e.kind = .noName) :
  c.LacksName conditions registry ∨ c.Raises .noName
  := by
  have hforeign : ¬ e.kind.IsOfResolution := by
    rw [hkind]
    exact id
  cases objection_of_decide h with
  | skip hskip hsettle =>
    right
    rw [← hkind]
    exact .inr ⟨_, hskip, Site.raises_of_settle hsettle he hforeign⟩
  | parameters arrives fits ne_nil =>
    rcases List.mem_append.mp he with hparameters | hname
    · right
      rw [← hkind]
      apply raises_of_parameterErrors hparameters hforeign
    · left
      obtain ⟨hundeclared, api, hapi⟩ := undeclared_of_nameOn (mem_nameErrors_iff.mp hname) hkind
      exact ⟨⟨_, api, arrives, hapi⟩, fits, hundeclared⟩
  | unknownApi | automation =>
    obtain rfl := List.mem_singleton.mp he
    cases hkind
  | duplicate way named taken =>
    obtain rfl := List.mem_singleton.mp he
    rw [kind_of_isDuplicate taken] at hkind
    cases hkind
  | payload way payload =>
    obtain rfl := List.mem_singleton.mp he
    rcases kind_of_payload payload with ⟨templateId, key, hpayload⟩ | hpayload
    all_goals
      rw [hpayload] at hkind
      cases hkind

/-- A config that lacks a name is reported for that, after what is wrong with its parameters. -/
theorem LacksName.decide_eq
    (h : c.LacksName conditions registry) (names : NameIndex) :
  ∃ variant e, e.kind = .noName ∧ e.parameter = some nameParameter
    ∧ c.decide conditions registry names
      = .ok (.fail variant (c.parameterErrors conditions.vars registry ++ [e]))
  := by
  obtain ⟨⟨route, api, harrives, hapi⟩, hfits, hundeclared⟩ := h
  have hnone : (c.values conditions.vars registry).find? nameParameter = none := by
    rw [hasName, Table.contains, Option.isSome_eq_false_iff, Option.isNone_iff_eq_none]
      at hundeclared
    rw [values, Table.find?_filterMap, hundeclared, Option.bind_none]
  have hnameErrors : ∃ e, e.kind = .noName ∧ e.parameter = some nameParameter
      ∧ c.nameErrors route (c.values conditions.vars registry) = [e] := by
    simp only [nameErrors, nameOn, hapi, nameIsUnresolved, hundeclared, name, hnone]
    exact ⟨_, rfl, rfl, rfl⟩
  obtain ⟨e, hkind, hparameter, herrors⟩ := hnameErrors
  use some route.variant, e, hkind, hparameter
  rw [← herrors]
  apply harrives.decide_of_errors hfits
  rw [herrors]
  apply List.append_ne_nil_of_right_ne_nil _ (List.cons_ne_nil e [])

/-- No parameter that fails is taken for the name of a config that lacks one. -/
theorem LacksName.parameter_ne
    (h : c.LacksName conditions registry)
    (hanonymous : ∀ entry ∈ c.parameters.entries, entry.2.IsAnonymous) {e : DeployError}
    (he : e ∈ c.parameterErrors conditions.vars registry) :
  e.parameter ≠ some nameParameter
  := by
  rcases mem_parameterErrors he with ⟨-, hscope⟩ | ⟨name, p, errors, hp, hsettle, hmem⟩
  · rw [hscope.parameter]
    decide
  · have hnames := Site.names_of_settle hsettle e hmem
    rw [(hanonymous _ hp).parameter_eq hnames]
    intro hname
    obtain rfl : name = nameParameter := Option.some.inj hname
    have hdeclared := h.undeclared
    rw [hasName, Table.contains, Table.find?_eq_some_iff.mpr hp] at hdeclared
    cases hdeclared

/-- What is taken for granted never fails.  Whatever comes to the comparison with the names that
are taken is secured, and nothing else is pushed, so no deployment ends because something is
broken, and the error of a request is that of the client or of a scope without a text.  A classic
config is reported for a missing name exactly if it comes to the resolution of its parameters
without declaring one, and then no error about the value of a name stands next to this one.  A
parameter may also come up with such errors by itself. -/
theorem guards_never_fail
    (c : Config) (conditions : Conditions) (mode : Mode σ) (environment : String) (b : Books)
    (s : Session σ) :
  (∀ route name, c.Clears conditions b.registry route name → c.Secured conditions b route name)
    ∧ (∀ plan, c.decide conditions b.registry b.names = .ok (.push plan) →
      c.Clears conditions b.registry plan.route plan.name
        ∧ plan.properties = c.values conditions.vars b.registry)
    ∧ (c.deploy conditions mode environment b s).result ≠ .error .broken
    ∧ (∀ o, (c.deploy conditions mode environment b s).result = .ok o → ∀ e ∈ o.errors,
      (∀ cause, e.kind = .remoteCall cause →
        (∃ message, cause = some message ∧ c.Refused conditions mode b s message)
          ∨ c.Raises e.kind)
        ∧ (e.kind = .noName → c.LacksName conditions b.registry ∨ c.Raises .noName))
    ∧ (c.LacksName conditions b.registry →
      ∃ o, (c.deploy conditions mode environment b s).result = .ok o
        ∧ (∃ e ∈ o.errors, e.kind = .noName ∧ e.parameter = some nameParameter)
        ∧ ((∀ entry ∈ c.parameters.entries, entry.2.IsAnonymous) →
          ∀ e ∈ o.errors, e.parameter = some nameParameter → e.kind = .noName))
  := by
  refine ⟨fun route name h => h.secured, fun plan h => clears_of_decide h, ?_, ?_, ?_⟩
  · apply deploy_ne_broken
  · intro o h e he
    cases reported_of_deploy h he with
    | @decided _ _ own decided mem =>
      constructor
      · intro cause hcause
        have hbeyond : own.kind.IsBeyondChecks := by
          rw [show own.kind = .remoteCall cause from hcause]
          trivial
        exact .inr ((objection_of_decide decided).raises mem hbeyond).1
      · intro hkind
        apply lacksName_of_decide decided mem hkind
    | refused decided carried =>
      constructor
      · intro cause hcause
        cases hcause
        exact .inl ⟨_, rfl, refused_of_carryOut decided carried⟩
      · intro hkind
        cases hkind
  · intro hlacks
    obtain ⟨variant, e, hkind, hparameter, hdecide⟩ := hlacks.decide_eq b.names
    refine ⟨c.failedOutcome environment variant
      (c.parameterErrors conditions.vars b.registry ++ [e]), ?_, ?_, ?_⟩
    · simp only [deploy, hdecide]
      rfl
    · refine ⟨e.stamp c.coordinate environment, ?_, hkind, hparameter⟩
      apply List.mem_map_of_mem
      simp
    · intro hanonymous e' he' hname
      obtain ⟨own, hown, rfl⟩ := List.mem_map.mp he'
      rcases List.mem_append.mp hown with hparameters | hlast
      · have hother : own.parameter ≠ some nameParameter :=
          hlacks.parameter_ne hanonymous hparameters
        exact absurd hname hother
      · obtain rfl := List.mem_singleton.mp hlast
        apply hkind

end Config

/-! ### A dashboard without a name -/

namespace Sample

/-- A dashboard that declares no name. -/
def unnamed : Config :=
  { board with parameters := .empty }

end Sample

/-- The first dashboard is secured under its name, and the one without a name is reported. -/
theorem guards_never_fail_unnamed :
  Sample.board.Clears Sample.conditions .empty (.byName Sample.dashboards) (some "Board")
    ∧ Sample.board.Secured Sample.conditions .empty (.byName Sample.dashboards) (some "Board")
    ∧ Sample.unnamed.LacksName Sample.conditions .empty
    ∧ ∃ o, (Sample.unnamed.deploy Sample.conditions (.push Recording.client) "test" .empty
        Sample.session).result = .ok o
      ∧ ∃ e ∈ o.errors, e.kind = .noName ∧ e.parameter = some nameParameter
  := by
  have hclears : Sample.board.Clears Sample.conditions .empty (.byName Sample.dashboards)
      (some "Board") :=
    ⟨⟨rfl, rfl, rfl, fun h => nomatch h⟩, rfl, rfl, rfl⟩
  have hlacks : Sample.unnamed.LacksName Sample.conditions .empty :=
    ⟨⟨.byName Sample.dashboards, Sample.dashboards, ⟨rfl, rfl, rfl, fun h => nomatch h⟩, rfl⟩,
      rfl, rfl⟩
  obtain ⟨hsecured, -⟩ := Config.guards_never_fail Sample.board Sample.conditions
    (.push Recording.client) "test" .empty Sample.session
  obtain ⟨-, -, -, -, hreported⟩ := Config.guards_never_fail Sample.unnamed Sample.conditions
    (.push Recording.client) "test" .empty Sample.session
  obtain ⟨o, ho, hmissing, -⟩ := hreported hlacks
  exact ⟨hclears, hsecured _ _ hclears, hlacks, o, ho, hmissing⟩

end Rollout
