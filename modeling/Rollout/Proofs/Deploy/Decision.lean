import Rollout.Deploy.Decision
import Rollout.Proofs.Deploy.Parameters

/-!
# What a decision knows

A config is pushed exactly if it passes every check, and a config that is reported has
an objection against it.  These two facts stand for the definition of a decision in all
that follows.
-/

namespace Rollout

/-! ### Ways to the platform -/

namespace Target

/-- Whether an object of a kind may be asked for by requests of a kind. -/
def fits : Target → Variant → Bool
  | .classic _, .classicUnique => true
  | .classic _, .classicNonUnique => true
  | .settings _ _, .settings => true
  | .entity _, .entity => true
  | .automation _, .automation => true
  | _, _ => false

variable {target : Target} {catalog : Catalog}

/-- A way leads to requests of the right kind. -/
theorem fits_of_route
    {route : Route} (h : target.route? catalog = some route) :
  target.fits route.variant = true
  := by
  cases target with
  | settings | entity | automation =>
    cases h
    rfl
  | classic id =>
    obtain ⟨api, -, rfl⟩ := Option.map_eq_some_iff.mp h
    split
    · rfl
    · rfl

/-- Only a classic config takes the way through a classic API, and the API is known. -/
theorem classic_of_route
    {route : Route} {api : Api} (h : target.route? catalog = some route)
    (hapi : route.api? = some api) :
  ∃ id, target = .classic id ∧ catalog.find? id = some api
  := by
  cases target with
  | settings | entity | automation =>
    cases h
    cases hapi
  | classic id =>
    obtain ⟨found, hfound, rfl⟩ := Option.map_eq_some_iff.mp h
    split at hapi
    · cases hapi
      exact ⟨id, rfl, hfound⟩
    · cases hapi
      exact ⟨id, rfl, hfound⟩

theorem isSettings_of_route
    {route : Route} (h : target.route? catalog = some route) (hroute : route.variant = .settings) :
  target.isSettings = true
  := by
  have hfits := fits_of_route h
  rw [hroute] at hfits
  cases target with
  | settings => rfl
  | classic | entity | automation => cases hfits

end Target

namespace Config

variable {c : Config} {conditions : Conditions} {registry : Registry} {names : NameIndex}

/-- A config comes to the resolution of its parameters on its way to the platform. -/
structure Arrives (c : Config) (conditions : Conditions) (registry : Registry) (route : Route) :
    Prop where
  skip_fits : c.skipIsTooDeep conditions registry = false
  not_skipped : c.isSkipped conditions.vars registry = .ok false
  way : c.target.route? conditions.catalog = some route
  enabled : route.variant = .automation → conditions.automation.enabled conditions.vars = true

/-- Nothing is wrong with the parameters of a config, nor with the name that it goes by. -/
structure Clears (c : Config) (conditions : Conditions) (registry : Registry) (route : Route)
    (name : Option String) : Prop extends c.Arrives conditions registry route where
  fits : c.parametersAreTooDeep conditions registry = false
  errors : c.parameterErrors conditions.vars registry = []
  named : c.nameOn route (c.values conditions.vars registry) = .ok name

/-- A config passes every check and is pushed as a plan says. -/
structure Passes (c : Config) (conditions : Conditions) (registry : Registry) (names : NameIndex)
    (plan : Plan) : Prop extends c.Clears conditions registry plan.route plan.name where
  properties : plan.properties = c.values conditions.vars registry
  unique : isDuplicate names plan.route plan.name = .ok none
  payload : c.payload conditions plan.properties = .ok (.ok plan.payload)

/-- What is wrong with a config that is reported, with the errors that are. -/
inductive Objection (c : Config) (conditions : Conditions) (registry : Registry)
    (names : NameIndex) : Option Variant → List DeployError → Prop where
  /-- Its skip parameter has no value. -/
  | skip {p : Parameter} {errors : List DeployError} (skip : c.skip = .parameter p)
      (settle : c.settle conditions.vars registry skipParameter p = .error errors) :
      Objection c conditions registry names none errors
  /-- Its API is not known. -/
  | unknownApi (route : c.target.route? conditions.catalog = none) :
      Objection c conditions registry names none [unknownApi c.target.label]
  /-- Automation resources are switched off. -/
  | automation {route : Route} (way : c.target.route? conditions.catalog = some route)
      (automation : route.variant = .automation)
      (disabled : conditions.automation.enabled conditions.vars = false) :
      Objection c conditions registry names (some .automation)
        [automationDisabled conditions.automation]
  /-- Its parameters or its name are wrong. -/
  | parameters {route : Route} (arrives : c.Arrives conditions registry route)
      (fits : c.parametersAreTooDeep conditions registry = false)
      (ne_nil : c.parameterErrors conditions.vars registry
        ++ c.nameErrors route (c.values conditions.vars registry) ≠ []) :
      Objection c conditions registry names (some route.variant)
        (c.parameterErrors conditions.vars registry
          ++ c.nameErrors route (c.values conditions.vars registry))
  /-- Its name is taken. -/
  | duplicate {route : Route} {name : Option String} {e : DeployError}
      (way : c.target.route? conditions.catalog = some route)
      (named : c.nameOn route (c.values conditions.vars registry) = .ok name)
      (taken : isDuplicate names route name = .ok (some e)) :
      Objection c conditions registry names (some route.variant) [e]
  /-- It has no payload. -/
  | payload {route : Route} {e : DeployError}
      (way : c.target.route? conditions.catalog = some route)
      (payload : c.payload conditions (c.values conditions.vars registry) = .ok (.error e)) :
      Objection c conditions registry names (some route.variant) [e]

/-- The decision about a config breaks off: there is no room to settle its skip parameter or the
others, or nothing is wrong with it up to its payload, which is not read or written to the end. -/
inductive BreaksOff (c : Config) (conditions : Conditions) (registry : Registry)
    (names : NameIndex) : Fault → Prop where
  | skip (deep : c.skipIsTooDeep conditions registry = true) :
      BreaksOff c conditions registry names .tooDeep
  | parameters {route : Route} (arrives : c.Arrives conditions registry route)
      (deep : c.parametersAreTooDeep conditions registry = true) :
      BreaksOff c conditions registry names .tooDeep
  | payload {route : Route} {name : Option String} {fault : Fault}
      (clears : c.Clears conditions registry route name)
      (unique : isDuplicate names route name = .ok none)
      (payload : c.payload conditions (c.values conditions.vars registry) = .error fault) :
      BreaksOff c conditions registry names fault

/-- What a decision rests on: the skip flag, an objection, every check passed, or a fault. -/
inductive Judged (c : Config) (conditions : Conditions) (registry : Registry)
    (names : NameIndex) : Except Fault Decision → Prop where
  | skip (skipped : c.isSkipped conditions.vars registry = .ok true) :
      Judged c conditions registry names (.ok .skip)
  | fail {variant : Option Variant} {errors : List DeployError}
      (objection : c.Objection conditions registry names variant errors) :
      Judged c conditions registry names (.ok (.fail variant errors))
  | push {plan : Plan} (passes : c.Passes conditions registry names plan) :
      Judged c conditions registry names (.ok (.push plan))
  | fault {fault : Fault} (breaks : c.BreaksOff conditions registry names fault) :
      Judged c conditions registry names (.error fault)

/-- On its way a config goes without a name, or by the value of its name parameter. -/
theorem nameOn_cases
    (c : Config) (route : Route) (values : Properties) :
  c.nameOn route values = .ok none ∨ c.nameOn route values = (c.name values).map some
  := by
  rw [nameOn]
  split
  · split
    · exact .inl rfl
    · exact .inr rfl
  · split
    · exact .inr rfl
    · exact .inl rfl

theorem nameErrors_eq_nil_iff
    {route : Route} {values : Properties} :
  c.nameErrors route values = [] ↔ ∃ name, c.nameOn route values = .ok name
  := by
  rw [nameErrors]
  cases c.nameOn route values with
  | ok name => simp
  | error e => simp

/-- A config with a classic API goes by a name if nothing is wrong with its parameters. -/
theorem exists_name_of_nameOn
    {vars : Variables} (herrors : c.parameterErrors vars registry = []) {route : Route} {api : Api}
    (hapi : route.api? = some api) {name : Option String}
    (hname : c.nameOn route (c.values vars registry) = .ok name) :
  ∃ n, name = some n
  := by
  have hresolved : c.nameIsUnresolved (c.values vars registry) = false := by
    rw [nameIsUnresolved, hasName, Table.contains, Table.contains]
    cases hp : c.parameters.find? nameParameter with
    | none => rfl
    | some p =>
      obtain ⟨v, hv⟩ := exists_value herrors hp
      rw [hv]
      rfl
  simp only [nameOn, hapi, hresolved] at hname
  cases hvalue : c.name (c.values vars registry) with
  | error e =>
    rw [hvalue] at hname
    cases hname
  | ok n =>
    rw [hvalue] at hname
    cases hname
    exact ⟨n, rfl⟩

/-- There is a request for a config that nothing is wrong with, unless its scope has no text. -/
theorem Clears.request_cases
    {plan : Plan} (h : c.Clears conditions registry plan.route plan.name)
    (hproperties : plan.properties = c.values conditions.vars registry) :
  (∃ request, plan.request c.coordinate = .ok request)
    ∨ ∃ scope reason, c.target.isSettings = true
      ∧ (c.values conditions.vars registry).find? scopeParameter = some scope
      ∧ scope.display = .error reason
      ∧ plan.request c.coordinate = .error (.unwritable reason)
  := by
  have hname := h.named
  rw [Plan.request]
  cases hway : plan.route with
  | settings schemaId schemaVersion =>
    have hsettings : c.target.isSettings = true := by
      apply Target.isSettings_of_route h.way
      rw [hway]
      rfl
    obtain ⟨scope, hscope⟩ := exists_scope h.errors hsettings
    simp only [hproperties, hscope]
    cases hdisplay : scope.display with
    | error reason => exact .inr ⟨scope, reason, hsettings, rfl, hdisplay, rfl⟩
    | ok text => exact .inl ⟨_, rfl⟩
  | byName api | byId api =>
    rw [hway] at hname
    obtain ⟨name, hnamed⟩ := exists_name_of_nameOn h.errors rfl hname
    simp only [hnamed]
    exact .inl ⟨_, rfl⟩
  | entity | automation => exact .inl ⟨_, rfl⟩

/-- A name is not compared only if it is missing. -/
theorem Clears.exists_isDuplicate
    {route : Route} {name : Option String} (h : c.Clears conditions registry route name)
    (names : NameIndex) :
  ∃ taken, isDuplicate names route name = .ok taken
  := by
  cases route with
  | settings | byId | entity | automation => exact ⟨none, rfl⟩
  | byName api =>
    obtain ⟨n, rfl⟩ := exists_name_of_nameOn h.errors rfl h.named
    exact ⟨_, rfl⟩

/-- A config that comes to the resolution of its parameters is decided about on its way. -/
theorem Arrives.decide_eq
    {route : Route} (h : c.Arrives conditions registry route) (names : NameIndex) :
  c.decide conditions registry names = c.decideOn conditions registry names route
  := by
  simp only [decide, h.skip_fits, h.not_skipped, h.way, Bool.false_eq_true, if_false]

theorem Arrives.switch_eq
    {route : Route} (h : c.Arrives conditions registry route) :
  (route.variant = .automation && !conditions.automation.enabled conditions.vars) = false
  := by simpa using h.enabled

theorem Arrives.decide_of_deep
    {route : Route} (h : c.Arrives conditions registry route)
    (hdeep : c.parametersAreTooDeep conditions registry = true) (names : NameIndex) :
  c.decide conditions registry names = .error .tooDeep
  := by
  rw [h.decide_eq, decideOn, h.switch_eq, if_neg Bool.false_ne_true, if_pos hdeep]

/-- What is wrong with its parameters and its name is reported of a config. -/
theorem Arrives.decide_of_errors
    {route : Route} (h : c.Arrives conditions registry route)
    (hfits : c.parametersAreTooDeep conditions registry = false)
    (hne : c.parameterErrors conditions.vars registry
      ++ c.nameErrors route (c.values conditions.vars registry) ≠ []) (names : NameIndex) :
  c.decide conditions registry names
    = .ok (.fail (some route.variant) (c.parameterErrors conditions.vars registry
      ++ c.nameErrors route (c.values conditions.vars registry)))
  := by
  rw [h.decide_eq, decideOn, h.switch_eq, if_neg Bool.false_ne_true, hfits,
    if_neg Bool.false_ne_true]
  dsimp only
  split
  · rename_i hnil
    exact absurd hnil hne
  · rfl

/-- A config that nothing is wrong with up to its name is decided about by name and payload. -/
theorem Clears.decide_eq
    {route : Route} {name : Option String} (h : c.Clears conditions registry route name)
    (names : NameIndex) :
  c.decide conditions registry names
    = c.decideResolved conditions names route (c.values conditions.vars registry) name
  := by
  have herrors := List.append_eq_nil_iff.mpr
    ⟨h.errors, nameErrors_eq_nil_iff.mpr ⟨name, h.named⟩⟩
  simp only [h.toArrives.decide_eq, decideOn, h.switch_eq, h.fits, herrors, h.named,
    Bool.false_eq_true, if_false, Except.toOption, Option.join_some]

theorem Clears.judged
    {route : Route} {name : Option String} (h : c.Clears conditions registry route name) :
  c.Judged conditions registry names
    (c.decideResolved conditions names route (c.values conditions.vars registry) name)
  := by
  obtain ⟨taken, hunique⟩ := h.exists_isDuplicate names
  simp only [decideResolved, hunique]
  cases taken with
  | some e =>
    apply Judged.fail
    apply Objection.duplicate h.way h.named hunique
  | none =>
    cases hpayload : c.payload conditions (c.values conditions.vars registry) with
    | error fault =>
      apply Judged.fault
      apply BreaksOff.payload h hunique hpayload
    | ok payload =>
      cases payload with
      | error e =>
        apply Judged.fail
        apply Objection.payload h.way hpayload
      | ok payload =>
        apply Judged.push
        exact ⟨h, rfl, hunique, hpayload⟩

theorem judged_decideOn
    {route : Route} (hfits : c.skipIsTooDeep conditions registry = false)
    (hskip : c.isSkipped conditions.vars registry = .ok false)
    (hroute : c.target.route? conditions.catalog = some route) :
  c.Judged conditions registry names (c.decideOn conditions registry names route)
  := by
  rw [decideOn]
  split
  · rename_i hoff
    simp only [Bool.and_eq_true, decide_eq_true_eq, Bool.not_eq_true'] at hoff
    apply Judged.fail
    apply Objection.automation hroute hoff.1 hoff.2
  · rename_i hon
    have harrives : c.Arrives conditions registry route :=
      ⟨hfits, hskip, hroute, by simpa using hon⟩
    split
    · rename_i hdeep
      apply Judged.fault
      apply BreaksOff.parameters harrives hdeep
    · rename_i hroom
      dsimp only
      split
      · rename_i hnil
        obtain ⟨herrors, hname⟩ := List.append_eq_nil_iff.mp hnil
        obtain ⟨name, hname⟩ := nameErrors_eq_nil_iff.mp hname
        simp only [hname, Except.toOption, Option.join_some]
        apply Clears.judged
        exact ⟨harrives, Bool.eq_false_iff.mpr hroom, herrors, hname⟩
      · rename_i hne
        apply Judged.fail
        apply Objection.parameters harrives (Bool.eq_false_iff.mpr hroom) hne

/-- Every decision rests on the skip flag, on an objection, on every check passed, or on a fault. -/
theorem judged_decide
    (c : Config) (conditions : Conditions) (registry : Registry) (names : NameIndex) :
  c.Judged conditions registry names (c.decide conditions registry names)
  := by
  rw [decide]
  split
  · rename_i hdeep
    apply Judged.fault
    apply BreaksOff.skip hdeep
  · rename_i hfits
    cases hskip : c.isSkipped conditions.vars registry with
    | error errors =>
      apply Judged.fail
      rw [isSkipped] at hskip
      split at hskip
      · cases hskip
      · rename_i p hp
        cases hsettle : c.settle conditions.vars registry skipParameter p with
        | ok v =>
          rw [hsettle] at hskip
          cases hskip
        | error errors' =>
          rw [hsettle] at hskip
          cases hskip
          apply Objection.skip hp hsettle
    | ok skipped =>
      cases skipped with
      | true => apply Judged.skip hskip
      | false =>
        cases hroute : c.target.route? conditions.catalog with
        | none =>
          apply Judged.fail
          apply Objection.unknownApi hroute
        | some route => apply judged_decideOn (Bool.eq_false_iff.mpr hfits) hskip hroute

/-- A config that is pushed passes every check. -/
theorem passes_of_decide
    {plan : Plan} (h : c.decide conditions registry names = .ok (.push plan)) :
  c.Passes conditions registry names plan
  := by
  have hjudged := c.judged_decide conditions registry names
  rw [h] at hjudged
  cases hjudged with
  | push passes => apply passes

/-- The decision about a config ends a run exactly if it breaks off. -/
theorem decide_eq_error_iff
    {fault : Fault} :
  c.decide conditions registry names = .error fault ↔ c.BreaksOff conditions registry names fault
  := by
  constructor
  · intro h
    have hjudged := c.judged_decide conditions registry names
    rw [h] at hjudged
    cases hjudged with
    | fault breaks => apply breaks
  · intro h
    cases h with
    | skip deep => rw [decide, if_pos deep]
    | parameters arrives deep => apply arrives.decide_of_deep deep
    | payload clears unique payload =>
      rw [clears.decide_eq]
      simp only [decideResolved, unique, payload]

/-- There is an objection against a config that is reported. -/
theorem objection_of_decide
    {variant : Option Variant} {errors : List DeployError}
    (h : c.decide conditions registry names = .ok (.fail variant errors)) :
  c.Objection conditions registry names variant errors
  := by
  have hjudged := c.judged_decide conditions registry names
  rw [h] at hjudged
  cases hjudged with
  | fail objection => apply objection

/-- Every objection reports something. -/
theorem Objection.errors_ne_nil
    {variant : Option Variant} {errors : List DeployError}
    (h : c.Objection conditions registry names variant errors) :
  errors ≠ []
  := by
  cases h with
  | skip _ settle => apply Site.settle_error_ne_nil settle
  | parameters _ _ ne_nil => apply ne_nil
  | unknownApi | automation | duplicate | payload => apply List.cons_ne_nil

/-- A config that is pushed refers to other configs that have left something behind. -/
theorem Passes.offers
    {plan : Plan} (h : c.Passes conditions registry names plan) :
  ∀ t ∈ c.references, t ≠ c.coordinate ∧ registry.Offers t
  := offers_of_parameterErrors h.not_skipped h.errors

/-! ### Payloads -/

/-- What comes of the payload of a config: it is not written or not read to the end, a block has no
value, it is not JSON, or it is ready. -/
inductive Rendered (c : Config) (conditions : Conditions) (values : Properties) :
    Except Fault (Except DeployError String) → Prop where
  | deepValue {levels : Nat} (room : conditions.writing = some levels)
      (deep : c.template.exceeds levels conditions.vars values.escape = true) :
      Rendered c conditions values (.error .tooDeep)
  | gap {gap : Template.Gap}
      (render : c.template.render conditions.vars values.escape = .error (.unresolved gap)) :
      Rendered c conditions values (.ok (.error (.ofGap c.template.id gap)))
  | longValue
      (render : c.template.render conditions.vars values.escape
        = .error (.unwritable .longInteger)) :
      Rendered c conditions values (.error .longInteger)
  | deepText {text : String} {levels : Nat}
      (render : c.template.render conditions.vars values.escape = .ok text)
      (room : conditions.reading = some levels)
      (deep : Json.exceeds levels text.toList = true) :
      Rendered c conditions values (.error .tooDeep)
  | malformed {text : String} {place : Json.Malformed}
      (render : c.template.render conditions.vars values.escape = .ok text)
      (parse : Json.parse text.toList = .error (.malformed place)) :
      Rendered c conditions values (.ok (.error (malformedPayload c.template.id place)))
  | longText {text : String}
      (render : c.template.render conditions.vars values.escape = .ok text)
      (parse : Json.parse text.toList = .error .longInteger) :
      Rendered c conditions values (.error .longInteger)
  | ready {text : String} {json : Json}
      (render : c.template.render conditions.vars values.escape = .ok text)
      (parse : Json.parse text.toList = .ok json) :
      Rendered c conditions values (.ok (.ok text))

theorem rendered_payload
    (c : Config) (conditions : Conditions) (values : Properties) :
  c.Rendered conditions values (c.payload conditions values)
  := by
  rw [payload]
  split
  · rename_i hdeep
    obtain ⟨levels, hroom, hdeep⟩ := (Option.any_eq_true _ _).mp hdeep
    apply Rendered.deepValue hroom hdeep
  · split
    · rename_i hrender
      apply Rendered.gap hrender
    · rename_i hrender
      apply Rendered.longValue hrender
    · rename_i hrender
      split
      · rename_i hdeep
        obtain ⟨levels, hroom, hdeep⟩ := (Option.any_eq_true _ _).mp hdeep
        apply Rendered.deepText hrender hroom hdeep
      · split
        · rename_i hparse
          apply Rendered.malformed hrender hparse
        · rename_i hparse
          apply Rendered.longText hrender hparse
        · rename_i hparse
          apply Rendered.ready hrender hparse

/-- A payload is the filled template, and it is JSON. -/
theorem render_of_payload
    {values : Properties} {text : String} (h : c.payload conditions values = .ok (.ok text)) :
  c.template.render conditions.vars values.escape = .ok text
    ∧ ∃ json, Json.parse text.toList = .ok json
  := by
  have hrendered := c.rendered_payload conditions values
  rw [h] at hrendered
  cases hrendered with
  | ready render parse => exact ⟨render, _, parse⟩

theorem kind_of_payload
    {values : Properties} {e : DeployError} (h : c.payload conditions values = .ok (.error e)) :
  (∃ templateId key, e.kind = .placeholder templateId key) ∨ e.kind = .payload
  := by
  have hrendered := c.rendered_payload conditions values
  rw [h] at hrendered
  cases hrendered with
  | gap => exact .inl ⟨_, _, rfl⟩
  | malformed => exact .inr rfl

/-- The decision about a config breaks off for want of room or for a long integer. -/
theorem BreaksOff.fault_cases
    {fault : Fault} (h : c.BreaksOff conditions registry names fault) :
  fault = .longInteger ∨ fault = .tooDeep
  := by
  cases h with
  | skip | parameters => exact .inr rfl
  | payload clears unique payload =>
    have hrendered := c.rendered_payload conditions (c.values conditions.vars registry)
    rw [payload] at hrendered
    cases hrendered with
    | longValue | longText => exact .inl rfl
    | deepValue | deepText => exact .inr rfl

/-! ### Missing dependencies -/

/-- A parameter that reports a config as not deployed refers to one that has left nothing
behind. -/
theorem missing_of_parameterErrors
    (hregular : c.IsRegular) {vars : Variables} {e : DeployError}
    (he : e ∈ c.parameterErrors vars registry) {referenced : Option Coordinate}
    {property : String} (hkind : e.kind = .reference .undeployed referenced property) :
  ∃ t ∈ c.references, referenced = some t ∧ t ≠ c.coordinate ∧ registry.find? t = none
  := by
  rcases mem_parameterErrors he with ⟨-, hscope⟩ | ⟨name, p, errors, hp, hsettle, hmem⟩
  · rw [hscope.kind] at hkind
    cases hkind
  · obtain ⟨r, hr, hmissing⟩ :=
      Site.missing_of_settle (hregular.parameters _ hp) hsettle hmem hkind
    exact ⟨r.target, mem_references.mpr (.inl ⟨_, hp, r, hr, rfl⟩), hmissing⟩

/-- An error about the value of the name parameter is that it has none, or that it has a value
of a wrong type. -/
theorem name_eq_error
    {values : Properties} {e : DeployError} (h : c.name values = .error e) :
  (c.site nameParameter).IsAbout e
    ∧ (e.kind = .noName ∧ nameParameter ∉ values.keys
      ∨ e.kind = .nameType ∧ nameParameter ∈ values.keys)
  := by
  rw [Table.mem_keys_iff]
  rw [name] at h
  split at h
  · rename_i hnone
    cases h
    use ⟨rfl, rfl⟩
    left
    simp [Site.error, hnone]
  · rename_i v hsome
    split at h
    · cases h
    · cases h
      use ⟨rfl, rfl⟩
      right
      exact ⟨rfl, v, hsome⟩

theorem mem_nameErrors_iff
    {route : Route} {values : Properties} {e : DeployError} :
  e ∈ c.nameErrors route values ↔ c.nameOn route values = .error e
  := by
  rw [nameErrors]
  cases c.nameOn route values with
  | ok name => simp
  | error e' => simp [eq_comm]

/-- What is wrong with the name on the way is wrong with the value of the name parameter,
which has one if it is declared. -/
theorem name_of_nameOn_eq_error
    {route : Route} {values : Properties} {e : DeployError}
    (h : c.nameOn route values = .error e) :
  c.name values = .error e ∧ c.nameIsUnresolved values = false
  := by
  have hmap : (c.name values).map some = .error e → c.name values = .error e := by
    intro hname
    cases hvalue : c.name values with
    | ok name =>
      rw [hvalue] at hname
      cases hname
    | error e' =>
      rw [hvalue] at hname
      cases hname
      rfl
  rw [nameOn] at h
  split at h
  · split at h
    · cases h
    · rename_i hresolved
      exact ⟨hmap h, Bool.eq_false_iff.mpr hresolved⟩
  · split at h
    · rename_i hvalue
      simp [hmap h, nameIsUnresolved, hvalue]
    · cases h

theorem kind_of_nameErrors
    {route : Route} {values : Properties} {e : DeployError}
    (he : e ∈ c.nameErrors route values) :
  e.kind = .noName ∨ e.kind = .nameType
  := by
  obtain ⟨hname, -⟩ := name_of_nameOn_eq_error (mem_nameErrors_iff.mp he)
  obtain ⟨-, ⟨hkind, -⟩ | ⟨hkind, -⟩⟩ := name_eq_error hname
  · exact .inl hkind
  · exact .inr hkind

theorem kind_of_isDuplicate
    {route : Route} {name : Option String} {e : DeployError}
    (h : isDuplicate names route name = .ok (some e)) :
  e.kind = .duplicateName
  := by
  cases route with
  | settings | byId | entity | automation => cases h
  | byName api =>
    cases name with
    | none => cases h
    | some name =>
      simp only [isDuplicate] at h
      split at h <;> cases h
      rfl

/-- An objection that reports a config as not deployed comes from a reference to one that
has left nothing behind. -/
theorem Objection.missing
    {variant : Option Variant} {errors : List DeployError}
    (h : c.Objection conditions registry names variant errors) (hregular : c.IsRegular)
    {e : DeployError} (he : e ∈ errors) {referenced : Option Coordinate} {property : String}
    (hkind : e.kind = .reference .undeployed referenced property) :
  ∃ t ∈ c.references, referenced = some t ∧ t ≠ c.coordinate ∧ registry.find? t = none
  := by
  cases h with
  | skip hskip hsettle =>
    rename_i p
    obtain ⟨r, hr, hmissing⟩ := Site.missing_of_settle (hregular.skip p hskip) hsettle he hkind
    exact ⟨r.target, mem_references.mpr (.inr ⟨p, hskip, r, hr, rfl⟩), hmissing⟩
  | parameters arrives fits ne_nil =>
    rcases List.mem_append.mp he with hparameters | hname
    · apply missing_of_parameterErrors hregular hparameters hkind
    · rcases kind_of_nameErrors hname with hname | hname
      all_goals
        rw [hname] at hkind
        cases hkind
  | unknownApi | automation =>
    obtain rfl := List.mem_singleton.mp he
    cases hkind
  | duplicate way named taken =>
    obtain rfl := List.mem_singleton.mp he
    rw [kind_of_isDuplicate taken] at hkind
    cases hkind
  | payload way payload =>
    obtain rfl := List.mem_singleton.mp he
    rcases kind_of_payload payload with ⟨templateId, key, hpayload⟩ | hpayload
    all_goals
      rw [hpayload] at hkind
      cases hkind

/-! ### Names -/

/-- Only a classic config of an API with unique names goes by its name. -/
theorem classic_of_byName
    {target : Target} {catalog : Catalog} {api : Api}
    (h : target.route? catalog = some (.byName api)) :
  ∃ id, target = .classic id ∧ catalog.find? id = some api ∧ api.requiresUniqueName = true
  := by
  cases target with
  | settings | entity | automation => simp [Target.route?] at h
  | classic id =>
    simp only [Target.route?, Option.map_eq_some_iff] at h
    obtain ⟨found, hfound, hroute⟩ := h
    split at hroute
    · rename_i hunique
      cases hroute
      exact ⟨id, rfl, hfound, hunique⟩
    · cases hroute

/-- The name on the way is the value of the name parameter. -/
theorem name_of_nameOn
    {route : Route} {values : Properties} {name : String}
    (h : c.nameOn route values = .ok (some name)) :
  c.name values = .ok name
  := by
  rcases c.nameOn_cases route values with hnone | hmap
  · rw [hnone] at h
    cases h
  · rw [hmap] at h
    cases hvalue : c.name values with
    | ok value =>
      rw [hvalue] at h
      cases h
      rfl
    | error e =>
      rw [hvalue] at h
      cases h

/-- The name of a plan is the value of the name parameter. -/
theorem Passes.name_eq
    {plan : Plan} (h : c.Passes conditions registry names plan) {name : String}
    (hname : plan.name = some name) :
  c.name plan.properties = .ok name
  := by
  rw [h.properties]
  apply name_of_nameOn
  rw [h.named, hname]

/-- A plan with a classic API has a name. -/
theorem Passes.exists_name
    {plan : Plan} (h : c.Passes conditions registry names plan) {api : Api}
    (hapi : plan.route.api? = some api) :
  ∃ name, plan.name = some name
  := exists_name_of_nameOn h.errors hapi h.named

end Config

end Rollout
