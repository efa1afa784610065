import Mathlib.Logic.Relation
import Rollout.Proofs.Run.Dependencies
import Rollout.Proofs.Run.Entries
import Rollout.Proofs.Run.Replacement
import Rollout.Proofs.Template.Substitution

/-!
# Values handed on by references

A reference hands on a value that another config has left behind.  The value is escaped for the
payload alone and is left behind as it was read, so along a chain of references the last config
leaves behind what the first one did, and in each payload a plain text has been escaped once.
The id and the name are left out of this, since a deployed config leaves others in their place.
-/

namespace Rollout

variable {σ : Type}

/-! ### Escaping -/

/-- A value as it is given, and as it stands in a payload: a plain text is escaped, so that it is
read back inside a JSON string, and anything else stays as it is. -/
inductive Value.EscapedOnce : Value → Value → Prop where
  | text {s : String}
      (reads : Json.parse (Text.doubleQuote :: ((escapeText s).toList ++ [Text.doubleQuote]))
        = .ok (.ofText s)) :
      EscapedOnce (.text s) (.text (escapeText s))
  | other {v : Value} (not_text : ∀ s, v ≠ .text s) : EscapedOnce v v

theorem Value.escapedOnce_escape
    (v : Value) :
  v.EscapedOnce v.escape
  := by
  cases v with
  | text s =>
    apply EscapedOnce.text
    apply (Json.parse_quoted_iff Json.isSurrogate_of_mem_points).mpr
    apply spells_escapeText
  | null | bool | int | float | fragment | list | map =>
    apply EscapedOnce.other
    intro s h
    cases h

/-- A parameter that is a reference takes the value that the other config has left behind. -/
theorem Config.find?_values_reference
    {c : Config} {vars : Variables} {registry : Registry}
    (herrors : c.parameterErrors vars registry = []) {p : String} {r : Reference}
    (hp : c.parameters.find? p = some (.reference r)) :
  ∃ t value, registry.find? r.target = some t ∧ t.skip = false
    ∧ t.properties.find? r.property = some value
    ∧ (c.values vars registry).find? p = some value
  := by
  have hentry := Table.find?_eq_some_iff.mp hp
  obtain ⟨value, hsettle⟩ := settle_of_parameterErrors herrors hentry
  have hsettled := (c.site p).settled_settle vars registry (.reference r)
  have hvalue : (c.values vars registry).find? p = some value := by
    rw [find?_values hentry, hsettle]
    rfl
  rw [settle] at hsettle
  rw [hsettle] at hsettled
  cases hsettled with
  | value checked resolved =>
    rw [Parameter.resolve] at resolved
    have hfollowed := Parameter.followed_follow registry (c.site p) r
    cases hfollow : Parameter.follow registry (c.site p) r with
    | error e =>
      rw [hfollow] at resolved
      cases resolved
    | ok v =>
      rw [hfollow] at resolved hfollowed
      cases resolved
      cases hfollowed with
      | value found skip property => exact ⟨_, value, found, skip, property, hvalue⟩

/-! ### One visit -/

namespace Visit

/-- A parameter of the config of a visit has a value. -/
def Resolves (setup : Setup σ) (v : Visit σ) (p : String) (value : Value) : Prop :=
  (v.config.values setup.conditions.vars v.books.registry).find? p = some value

/-- The config of a visit leaves a property behind. -/
def Registers (v : Visit σ) (q : String) (value : Value) : Prop :=
  ∃ e, v.entity? = some e ∧ e.properties.find? q = some value

/-- A text is the payload of the config of a visit: it is the template filled with the values of
the parameters, and whoever asks for the config sends it along. -/
structure Prepares (setup : Setup σ) (v : Visit σ) (payload : String) : Prop where
  render : v.config.template.render setup.conditions.vars
    (v.config.values setup.conditions.vars v.books.registry).escape = .ok payload
  requests : ∀ request, v.Asks setup request → request.payload = payload

end Visit

namespace Job

variable {job : Job} {setup : Setup σ} {s : Session σ} {before after : List (Visit σ)}
  {v : Visit σ} {p : String} {value : Value}

/-- A deployed config leaves behind the values of its parameters, with an id and a name in the
place of parameters that are called like these. -/
theorem entity_of_deployed
    (hv : v ∈ job.visits setup s) (hstate : v.state? = some .deployed) :
  ∃ e id name, v.entity? = some e ∧ e.skip = false
    ∧ e.properties = ((v.config.values setup.conditions.vars v.books.registry).insert idProperty
      id).insert nameParameter name
  := by
  obtain ⟨o, ho, hdeployed⟩ := Option.map_eq_some_iff.mp hstate
  obtain ⟨⟨e, he, hskip, -⟩, -⟩ := (contained_outcome hv ho).deployed hdeployed
  have hentity : v.entity? = some e := by rw [Visit.entity?, ho, Option.bind_some, he]
  obtain ⟨-, henters⟩ := Visit.enters_of_deploy (deployed_visit hv) ho he
  cases henters with
  | skipped state =>
    rw [hdeployed] at state
    cases state
  | deployed _ _ _ _ _ properties => exact ⟨e, _, _, hentity, hskip, properties⟩

/-- Nothing is wrong with the parameters of a deployed config. -/
theorem parameterErrors_of_deployed
    (hv : v ∈ job.visits setup s) (hstate : v.state? = some .deployed) :
  v.config.parameterErrors setup.conditions.vars v.books.registry = []
  := by
  obtain ⟨plan, hpasses⟩ := Setup.exists_passes (deployed_visit hv) (.inl hstate)
  apply hpasses.errors

/-- A deployed config leaves the values of its parameters behind as they are. -/
theorem registers_iff_resolves
    (hv : v ∈ job.visits setup s) (hstate : v.state? = some .deployed) (hid : p ≠ idProperty)
    (hname : p ≠ nameParameter) :
  v.Registers p value ↔ v.Resolves setup p value
  := by
  obtain ⟨e, id, name, hentity, -, hproperties⟩ := entity_of_deployed hv hstate
  have hfind : e.properties.find? p
      = (v.config.values setup.conditions.vars v.books.registry).find? p := by
    rw [hproperties, Table.find?_insert, Table.find?_insert, if_neg hname.symm, if_neg hid.symm]
  rw [Visit.Resolves, ← hfind, Visit.Registers]
  simp [hentity]

/-- A deployed config has a payload, which shows the values of the parameters that the template
names. -/
theorem exists_prepares
    (hv : v ∈ job.visits setup s) (hstate : v.state? = some .deployed) :
  ∃ payload, v.Prepares setup payload
    ∧ ∀ p value, v.Resolves setup p value →
      v.config.template.Shows setup.conditions.vars
        (v.config.values setup.conditions.vars v.books.registry).escape payload p value.escape
  := by
  obtain ⟨plan, hpasses⟩ := Setup.exists_passes (deployed_visit hv) (.inl hstate)
  obtain ⟨hrender, -⟩ := Config.render_of_payload hpasses.payload
  rw [hpasses.properties] at hrender
  refine ⟨plan.payload, ⟨hrender, ?_⟩, ?_⟩
  · rintro request ⟨o, variant, -, -, hasks⟩
    rw [hasks.payload] at hrender
    apply Except.ok.inj hrender
  · intro p value hvalue
    apply Template.shows_of_render hrender
    rw [Properties.find?_escape, hvalue, Option.map_some]

/-! ### From visit to visit -/

/-- A parameter of a config, whose parameters all have values, is a reference to a property of
another one that has been deployed before in the same environment, with nothing but failures at
its coordinate since. -/
inductive Refers (job : Job) (setup : Setup σ) (s : Session σ) :
    Visit σ × String → Visit σ × String → Prop where
  | intro {before between after : List (Visit σ)} {u v : Visit σ} {q p : String}
      (visits : job.visits setup s = before ++ u :: (between ++ v :: after))
      (environment : u.environment = v.environment)
      (failed : ∀ w ∈ between, w.IsAt v.environment u.config.coordinate →
        w.state? = some .failed)
      (source : u.state? = some .deployed)
      (resolved : v.config.parameterErrors setup.conditions.vars v.books.registry = [])
      (parameter : v.config.parameters.find? p = some (.reference ⟨u.config.coordinate, q⟩)) :
      Refers job setup s (u, q) (v, p)

/-- Whatever a deployed config refers to was left behind by a visit before it. -/
theorem exists_refers
    (h : job.visits setup s = before ++ v :: after) (hstate : v.state? = some .deployed)
    {r : Reference} (hp : v.config.parameters.find? p = some (.reference r)) :
  ∃ u, u.config.coordinate = r.target ∧ job.Refers setup s (u, r.property) (v, p)
  := by
  have hresolved := parameterErrors_of_deployed (mem_visits h) hstate
  obtain ⟨t, -, ht, hskip, -, -⟩ := Config.find?_values_reference hresolved hp
  obtain ⟨before', u, between, rfl, ⟨henvironment, hcoordinate⟩, hdeployed, hfailed⟩ :=
    exists_visit_of_offers h ⟨t, ht, hskip⟩
  rw [List.append_assoc, List.cons_append] at h
  refine ⟨u, hcoordinate, .intro h henvironment ?_ hdeployed hresolved ?_⟩
  · rw [hcoordinate]
    apply hfailed
  · rw [hcoordinate, hp]

/-- A parameter may refer to what the visit right before has left behind. -/
theorem refers_of_adjacent
    (before : List (Visit σ)) {u : Visit σ} {q : String}
    (h : job.visits setup s = before ++ u :: v :: after)
    (henvironment : u.environment = v.environment) (hsource : u.state? = some .deployed)
    (hresolved : v.config.parameterErrors setup.conditions.vars v.books.registry = [])
    (hp : v.config.parameters.find? p = some (.reference ⟨u.config.coordinate, q⟩)) :
  job.Refers setup s (u, q) (v, p)
  := by
  have hvisits : job.visits setup s = before ++ u :: ([] ++ v :: after) := h
  apply Refers.intro hvisits henvironment _ hsource hresolved hp
  intro w hw
  cases hw

theorem Refers.mem_visits
    {x y : Visit σ × String} (h : job.Refers setup s x y) :
  x.1 ∈ job.visits setup s ∧ y.1 ∈ job.visits setup s
  := by
  obtain ⟨visits, -, -, -, -, -⟩ := h
  simp [visits]

theorem Refers.source_deployed
    {x y : Visit σ × String} (h : job.Refers setup s x y) :
  x.1.state? = some .deployed
  := by
  obtain ⟨-, -, -, source, -, -⟩ := h
  exact source

/-- What a parameter refers to is met in the registry as it was left behind. -/
theorem Refers.meets
    {x y : Visit σ × String} (h : job.Refers setup s x y) :
  y.1.books.registry.find? x.1.config.coordinate = x.1.entity?
  := by
  obtain ⟨visits, environment, failed, source, -, -⟩ := h
  rename_i before between after u v q p
  have hu : u ∈ job.visits setup s := by simp [visits]
  obtain ⟨e, -, -, hentity, -⟩ := entity_of_deployed hu source
  have hnone : Visit.latest? u.environment u.config.coordinate between = none := by
    cases hlatest : Visit.latest? u.environment u.config.coordinate between with
    | none => rfl
    | some t =>
      obtain ⟨front, w, back, rfl, hat, ht, -⟩ := Visit.latest?_eq_some hlatest
      have hw : w ∈ job.visits setup s := by simp [visits]
      have hstate := failed w (by simp) (environment ▸ hat)
      obtain ⟨o, ho, hfailed⟩ := Option.map_eq_some_iff.mp hstate
      rw [Visit.entity?, ho, Option.bind_some,
        (contained_outcome hw ho).failed_iff_entity.mp hfailed] at ht
      cases ht
  have hsplit : job.visits setup s = (before ++ u :: between) ++ v :: after := by simp [visits]
  dsimp only
  rw [registry_visit hsplit, ← environment, Visit.latest?_append_cons hentity, hnone, hentity]
  rfl

/-- A parameter takes the value that it refers to. -/
theorem Refers.resolves
    {x y : Visit σ × String} (h : job.Refers setup s x y) (hx : x.1.Registers x.2 value) :
  y.1.Resolves setup y.2 value
  := by
  have hmeets := h.meets
  obtain ⟨-, -, -, -, resolved, parameter⟩ := h
  obtain ⟨t, value', ht, -, hproperty, hvalue⟩ :=
    Config.find?_values_reference resolved parameter
  obtain ⟨e, he, hfind⟩ := hx
  dsimp only at ht hmeets he hfind hproperty
  obtain rfl : e = t := by
    rw [hmeets, he] at ht
    apply Option.some.inj ht
  rw [hfind] at hproperty
  obtain rfl := Option.some.inj hproperty
  apply hvalue

/-- A parameter of a deployed config is a reference, and it hands its value on. -/
structure Relays (job : Job) (setup : Setup σ) (s : Session σ) (x y : Visit σ × String) :
    Prop where
  refers : job.Refers setup s x y
  deployed : y.1.state? = some .deployed
  not_id : y.2 ≠ idProperty
  not_name : y.2 ≠ nameParameter

theorem Relays.registers
    {x y : Visit σ × String} (h : job.Relays setup s x y) (hx : x.1.Registers x.2 value) :
  y.1.Registers y.2 value
  := by
  have hresolves := h.refers.resolves hx
  apply (registers_iff_resolves h.refers.mem_visits.2 h.deployed h.not_id h.not_name).mpr hresolves

/-- Along a chain of references the last config leaves behind what the first one did. -/
theorem registers_of_chain
    {x y : Visit σ × String} (h : Relation.ReflTransGen (job.Relays setup s) x y)
    (hx : x.1.Registers x.2 value) :
  y.1.Registers y.2 value
  := by
  induction h with
  | refl => exact hx
  | tail _ hstep ih => exact hstep.registers ih

/-- In every run, a deployed config with a parameter that is a reference leaves behind, under the
name of the parameter, the value that it meets in the registry under the property referred to.
So along a chain of references the last config leaves behind what the first one did, which is the
value of its parameter as it is.  In each payload on the way the value stands wherever the
template names the parameter, and if it is a plain text it has been escaped once there.  All this
is about parameters that are not called like the id or the name. -/
theorem references_carry_raw_values
    (job : Job) (setup : Setup σ) (s : Session σ) :
  (∀ before v after, job.visits setup s = before ++ v :: after → v.state? = some .deployed →
      ∀ p r, v.config.parameters.find? p = some (.reference r) →
        p ≠ idProperty → p ≠ nameParameter →
          ∃ t value, (job.booksAfter setup s before v.environment).registry.find? r.target = some t
            ∧ t.properties.find? r.property = some value
            ∧ v.Registers p value
            ∧ ∃ u, u.entity? = some t ∧ job.Relays setup s (u, r.property) (v, p))
    ∧ (∀ x y, Relation.ReflTransGen (job.Relays setup s) x y →
      ∀ value, x.1.Registers x.2 value → y.1.Registers y.2 value)
    ∧ ∀ v ∈ job.visits setup s, v.state? = some .deployed →
      (∀ p value, p ≠ idProperty → p ≠ nameParameter →
        (v.Registers p value ↔ v.Resolves setup p value))
      ∧ ∃ payload, v.Prepares setup payload
        ∧ ∀ p value, p ≠ idProperty → p ≠ nameParameter → v.Registers p value →
          ∃ shown, value.EscapedOnce shown
            ∧ v.config.template.Shows setup.conditions.vars
              (v.config.values setup.conditions.vars v.books.registry).escape payload p shown
  := by
  refine ⟨?_, ?_, ?_⟩
  · intro before v after h hstate p r hp hid hname
    obtain ⟨u, hcoordinate, hrefers⟩ := exists_refers h hstate hp
    have hv := mem_visits h
    obtain ⟨t, value, ht, -, hproperty, hvalue⟩ :=
      Config.find?_values_reference (parameterErrors_of_deployed hv hstate) hp
    have hu : u.entity? = some t := by
      rw [← hrefers.meets, hcoordinate, ht]
    refine ⟨t, value, ?_, hproperty, ?_, u, hu, hrefers, hstate, hid, hname⟩
    · rw [← books_visit h, ht]
    · apply (registers_iff_resolves hv hstate hid hname).mpr hvalue
  · intro x y hchain value hx
    apply registers_of_chain hchain hx
  · intro v hv hstate
    constructor
    · intro p value hid hname
      apply registers_iff_resolves hv hstate hid hname
    · obtain ⟨payload, hprepares, hshows⟩ := exists_prepares hv hstate
      refine ⟨payload, hprepares, ?_⟩
      intro p value hid hname hregisters
      use value.escape, value.escapedOnce_escape
      apply hshows
      apply (registers_iff_resolves hv hstate hid hname).mp hregisters

end Job

/-! ### A motto -/

namespace Sample

/-- A dashboard with a motto. -/
def motto : Config :=
  { board with
    coordinate := ⟨"shop", "dashboard", "motto"⟩
    parameters := .ofList [(nameParameter, .value (.text "Motto")),
      ("words", .value (.text "\"Sell\"\n"))] }

/-- A dashboard that hands the motto on. -/
def herald : Config :=
  { board with
    coordinate := ⟨"shop", "dashboard", "herald"⟩
    parameters := .ofList [(nameParameter, .value (.text "Herald")),
      ("line", .reference ⟨motto.coordinate, "words"⟩)] }

/-- A dashboard that shows the motto as it has been handed on. -/
def banner : Config :=
  { board with
    coordinate := ⟨"shop", "dashboard", "banner"⟩
    template := ⟨"banner.json", "[\"\x7b\x7b .text \x7d\x7d\"]"⟩
    parameters := .ofList [(nameParameter, .value (.text "Banner")),
      ("text", .reference ⟨herald.coordinate, "line"⟩)] }

def campaign : Job :=
  .inOrder [motto, herald, banner]

end Sample

/-- The motto is left behind as it is at the end of the chain, and it is escaped in the payload. -/
theorem references_carry_raw_values_banner :
  ∃ u v w, Sample.campaign.visits Sample.setup Sample.session = [u, v, w]
    ∧ Relation.ReflTransGen (Sample.campaign.Relays Sample.setup Sample.session)
      (u, "words") (w, "text")
    ∧ u.Registers "words" (.text "\"Sell\"\n") ∧ w.Registers "text" (.text "\"Sell\"\n")
    ∧ w.Prepares Sample.setup "[\"\\\"Sell\\\"\\n\"]"
  := by
  have hvisits : (Sample.campaign.visits Sample.setup Sample.session).map (fun v =>
      (v.environment, v.state?, (v.config.template.render Sample.setup.conditions.vars
        (v.config.values Sample.setup.conditions.vars v.books.registry).escape).toOption))
      = [("test", some .deployed, some "[]"), ("test", some .deployed, some "[]"),
        ("test", some .deployed, some "[\"\\\"Sell\\\"\\n\"]")] := by
    decide +kernel
  obtain ⟨u, v, w, hsplit, hfacts, hfacts', hfacts''⟩ := Visit.triple_of_map hvisits
  obtain ⟨henvironment, hdeployed, -⟩ := by simpa using hfacts
  obtain ⟨henvironment', hdeployed', -⟩ := by simpa using hfacts'
  obtain ⟨henvironment'', hdeployed'', hrender⟩ := by simpa using hfacts''
  obtain ⟨rest, hconfigs⟩ := Job.configs_of_visits hsplit
  obtain ⟨hmotto, hherald, hbanner, -⟩ : Sample.motto = u.config ∧ Sample.herald = v.config
      ∧ Sample.banner = w.config ∧ [] = rest := by
    simpa [Sample.campaign, Job.items] using hconfigs
  obtain ⟨-, hchains, hprepared⟩ :=
    Job.references_carry_raw_values Sample.campaign Sample.setup Sample.session
  have hu : u ∈ Sample.campaign.visits Sample.setup Sample.session := by simp [hsplit]
  have hv : v ∈ Sample.campaign.visits Sample.setup Sample.session := by simp [hsplit]
  have hw : w ∈ Sample.campaign.visits Sample.setup Sample.session := by simp [hsplit]
  have hfirst : Sample.campaign.Relays Sample.setup Sample.session (u, "words") (v, "line") := by
    constructor
    · refine Job.refers_of_adjacent [] hsplit ?_ hdeployed
        (Job.parameterErrors_of_deployed hv hdeployed') ?_
      · rw [henvironment, henvironment']
      · rw [← hherald, ← hmotto]
        rfl
    · apply hdeployed'
    · exact (by decide : "line" ≠ idProperty)
    · exact (by decide : "line" ≠ nameParameter)
  have hsecond : Sample.campaign.Relays Sample.setup Sample.session (v, "line") (w, "text") := by
    constructor
    · refine Job.refers_of_adjacent [u] hsplit ?_ hdeployed'
        (Job.parameterErrors_of_deployed hw hdeployed'') ?_
      · rw [henvironment', henvironment'']
      · rw [← hbanner, ← hherald]
        rfl
    · apply hdeployed''
    · exact (by decide : "text" ≠ idProperty)
    · exact (by decide : "text" ≠ nameParameter)
  have hchain := (Relation.ReflTransGen.single hfirst).tail hsecond
  have hwords : u.Registers "words" (.text "\"Sell\"\n") := by
    apply ((hprepared u hu hdeployed).1 _ _ (by decide) (by decide)).mpr
    rw [Visit.Resolves, ← hmotto]
    rfl
  obtain ⟨-, payload, hprepares, -⟩ := hprepared w hw hdeployed''
  refine ⟨u, v, w, hsplit, hchain, hwords, hchains _ _ hchain _ hwords, ?_⟩
  rw [hprepares.render] at hrender
  obtain rfl : payload = _ := Option.some.inj hrender
  apply hprepares

end Rollout
