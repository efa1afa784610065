import Rollout.Proofs.Json.Legible
import Rollout.Proofs.Run.Relays

/-!
# Lists in templates

A parameter that is a list has the texts of its items as its value, each as a JSON string, with
commas between them.  Between brackets this is read as the array of these texts.  The value is a
fragment, so it is never escaped, and it stays one when it is handed on by references.  The id and
the name that the platform gives to a config are plain texts, though, even if a fragment was given
to it as its name.
-/

namespace Rollout

variable {σ : Type}

/-! ### The text of a list -/

namespace Parameter

variable {vars : Variables} {registry : Registry} {site : Site}

/-- A parameter has a value with a text. -/
def HasText (vars : Variables) (registry : Registry) (site : Site) (p : Parameter)
    (text : String) : Prop :=
  ∃ v, p.resolve vars registry site = .ok v ∧ v.format = .ok text

/-- The items of a list are written as the JSON strings of their texts. -/
theorem hasText_of_resolve_items
    {items : List Parameter} {written : List String}
    (h : resolve.items vars registry site items = .ok written) :
  ∃ texts, written = texts.map quoted ∧ List.Forall₂ (HasText vars registry site) items texts
  := by
  induction items generalizing written with
  | nil =>
    rw [resolve.items] at h
    cases h
    exact ⟨[], rfl, .nil⟩
  | cons p items ih =>
    rw [resolve.items] at h
    split at h
    · cases h
    · rename_i v hp
      rw [quotedFormat] at h
      cases hformat : v.format with
      | error reason =>
        rw [hformat] at h
        cases h
      | ok text =>
        rw [hformat] at h
        dsimp only at h
        split at h
        · cases h
        · rename_i rest hrest
          cases h
          obtain ⟨texts, rfl, htexts⟩ := ih hrest
          exact ⟨text :: texts, rfl, .cons ⟨v, hp, hformat⟩ htexts⟩

theorem toList_quoted
    (text : String) :
  (quoted text).toList = (Json.ofText text).render
  := by
  rw [quoted, String.toList_ofList, Json.ofText, Json.render]

/-- JSON strings with commas between them are the inside of an array. -/
theorem render_ofTexts
    (texts : List String) :
  ("[" ++ String.intercalate ", " (texts.map quoted) ++ "]").toList = (Json.ofTexts texts).render
  := by
  have hitems : ∀ (text : String) (texts : List String),
      (String.intercalate ", " ((text :: texts).map quoted) ++ "]").toList
        = (Json.ofText text).render ++ Json.renderItems (texts.map Json.ofText) := by
    intro text texts
    induction texts generalizing text with
    | nil =>
      rw [List.map_cons, List.map_nil, String.intercalate_singleton, String.toList_append,
        toList_quoted, List.map_nil, Json.renderItems]
      rfl
    | cons next texts ih =>
      rw [List.map_cons, List.map_cons, String.intercalate_cons_cons, String.append_assoc,
        ← List.map_cons, String.toList_append, String.toList_append, ih, toList_quoted,
        List.map_cons, Json.renderItems]
      rw [List.append_assoc]
      rfl
  rw [String.append_assoc, String.toList_append]
  cases texts with
  | nil => rfl
  | cons text texts =>
    rw [hitems, Json.ofTexts, List.map_cons, Json.render]
    rfl

/-- An array of texts is legible. -/
theorem isLegible_ofTexts
    (texts : List String) :
  (Json.ofTexts texts).isLegible = true
  := by
  rw [Json.ofTexts, Json.isLegible]
  induction texts with
  | nil => rfl
  | cons text texts ih =>
    rw [List.map_cons, Json.isLegible.items, ih, Json.ofText, Json.isLegible,
      Json.all_isCharacter_points]
    rfl

/-- A list has a fragment as its value, which is read between brackets as the array of the texts of
its items. -/
theorem exists_fragment_of_resolve
    {items : List Parameter} {v : Value} (h : (list items).resolve vars registry site = .ok v) :
  ∃ f texts, v = .fragment f ∧ List.Forall₂ (HasText vars registry site) items texts
    ∧ Json.parse ("[" ++ f ++ "]").toList = .ok (Json.ofTexts texts)
  := by
  rw [resolve] at h
  split at h
  · cases h
  · rename_i written hitems
    cases h
    obtain ⟨texts, rfl, htexts⟩ := hasText_of_resolve_items hitems
    refine ⟨_, texts, rfl, htexts, ?_⟩
    rw [render_ofTexts]
    apply Json.parse_render (isLegible_ofTexts texts)

end Parameter

/-! ### Fragments on their way -/

namespace Visit

/-- The platform takes the config of a visit and tells no name for it. -/
def IsUnnamed (setup : Setup σ) (v : Visit σ) : Prop :=
  ∃ plan client remote, v.config.decide setup.conditions v.books.registry v.books.names
      = .ok (.push plan)
    ∧ setup.options.dryRun = false ∧ setup.clients v.environment = some client
    ∧ (plan.carryOut (.push client) v.config v.session.client).1 = .ok remote
    ∧ remote.name = ""

/-- A deployed config leaves a fragment behind under the name of a parameter, unless this is where
it leaves the id or the name that the platform tells. -/
structure Keeps (setup : Setup σ) (v : Visit σ) (q f : String) : Prop where
  not_id : q ≠ idProperty
  name : q = nameParameter → f ≠ "" ∧ v.IsUnnamed setup

end Visit

/-- A config goes by the text of its name parameter, if it has a plan. -/
theorem Config.Passes.name_of_find?
    {c : Config} {conditions : Conditions} {registry : Registry} {names : NameIndex} {plan : Plan}
    (h : c.Passes conditions registry names plan) {v : Value} {text : String}
    (hv : plan.properties.find? nameParameter = some v) (htext : v.text? = some text) :
  plan.name = some text
  := by
  rw [h.properties] at hv
  have hname := h.named
  have hown : c.name (c.values conditions.vars registry) = .ok text := by
    simp only [Config.name, hv, htext]
  have hresolved : (c.values conditions.vars registry).contains nameParameter = true := by
    rw [Table.contains, hv]
    rfl
  rw [nameOn, nameIsUnresolved, hresolved, hown] at hname
  split at hname
  all_goals simpa [Except.map, eq_comm] using hname

namespace Job

variable {job : Job} {setup : Setup σ} {s : Session σ} {v : Visit σ}

/-- A deployed config leaves behind what its plan and the answer of the platform come to. -/
theorem entity_of_carryOut
    (hv : v ∈ job.visits setup s) (hstate : v.state? = some .deployed) {plan : Plan}
    {client : Client σ} {remote : RemoteEntity}
    (hdecide : v.config.decide setup.conditions v.books.registry v.books.names
      = .ok (.push plan))
    (hreal : setup.options.dryRun = false) (hclient : setup.clients v.environment = some client)
    (hcarried : (plan.carryOut (.push client) v.config v.session.client).1 = .ok remote) :
  v.entity? = some (v.config.deployedEntity plan remote)
  := by
  obtain ⟨o, ho, -⟩ := Option.map_eq_some_iff.mp hstate
  have hresult := Visit.outcome?_eq_some_iff.mp ho
  rw [Visit.entity?, ho, Option.bind_some]
  rw [deployed_visit hv, Setup.deploy, hreal] at hresult
  simp only [Bool.false_eq_true, if_false, hclient, Config.deploy, hdecide, Decision.carryOut,
    Session.tell] at hresult
  cases hcarry : plan.carryOut (.push client) v.config v.session.client with
  | mk answer state =>
    rw [hcarry] at hresult hcarried
    obtain rfl : answer = .ok remote := hcarried
    dsimp only at hresult
    split at hresult
    · cases hresult
      rfl
    · cases hresult

/-- A fragment that is kept is left behind as a fragment. -/
theorem registers_of_keeps
    (hv : v ∈ job.visits setup s) (hstate : v.state? = some .deployed) {q f : String}
    (hvalue : v.Resolves setup q (.fragment f)) (hkeeps : v.Keeps setup q f) :
  v.Registers q (.fragment f)
  := by
  by_cases hname : q = nameParameter
  · subst hname
    obtain ⟨hne, plan, client, remote, hdecide, hreal, hclient, hcarried, hunnamed⟩ :=
      hkeeps.name rfl
    have hpasses := Config.passes_of_decide hdecide
    have hfind : plan.properties.find? nameParameter = some (.fragment f) := by
      rw [hpasses.properties]
      apply hvalue
    have hplan := hpasses.name_of_find? hfind rfl
    refine ⟨_, entity_of_carryOut hv hstate hdecide hreal hclient hcarried, ?_⟩
    rw [Config.deployedEntity, Table.find?_insert, if_pos rfl, Config.nameValue,
      if_neg (not_not.mpr hunnamed), hplan, Option.bind_some, nonempty?, if_neg hne]
    dsimp only
    rw [hfind, Option.getD_some]
  · apply (registers_iff_resolves hv hstate hkeeps.not_id hname).mpr hvalue

/-- A parameter refers to one under whose name a fragment has been left behind. -/
structure Hands (job : Job) (setup : Setup σ) (s : Session σ) (f : String)
    (x y : Visit σ × String) : Prop where
  refers : job.Refers setup s x y
  keeps : x.1.Keeps setup x.2 f

/-- Along a chain of references a fragment stays a fragment. -/
theorem resolves_of_hands
    {f : String} {x y : Visit σ × String} (h : Relation.ReflTransGen (job.Hands setup s f) x y)
    (hx : x.1.Resolves setup x.2 (.fragment f)) :
  y.1.Resolves setup y.2 (.fragment f)
  := by
  induction h with
  | refl => exact hx
  | tail _ hstep ih =>
    apply hstep.refers.resolves
    exact registers_of_keeps hstep.refers.mem_visits.1 hstep.refers.source_deployed ih hstep.keeps

/-- The value of a list is a fragment, which is read between brackets as the array of the texts of
its items.  It is put into a payload as it is, wherever the template names a property with this
value.  So it is, too, if the value reaches the config by a chain of references, as long as each
config on the way keeps it. -/
theorem list_fragments
    {vars : Variables} {registry : Registry} {site : Site} {items : List Parameter} {v : Value}
    (h : (Parameter.list items).resolve vars registry site = .ok v)
    (job : Job) (setup : Setup σ) (s : Session σ) :
  ∃ f texts, v = .fragment f
    ∧ List.Forall₂ (Parameter.HasText vars registry site) items texts
    ∧ Json.parse ("[" ++ f ++ "]").toList = .ok (Json.ofTexts texts)
    ∧ (∀ (vars : Variables) (properties : Properties) (key : String),
      properties.find? key = some v →
        Template.fill vars properties.escape (.property key) = .ok f
          ∧ ∀ (t : Template) (payload : String), t.render vars properties.escape = .ok payload →
            t.Shows vars properties.escape payload key v)
    ∧ ∀ x y, Relation.ReflTransGen (job.Hands setup s f) x y → x.1.Resolves setup x.2 v →
      y.1.Resolves setup y.2 v
        ∧ (y.1 ∈ job.visits setup s → y.1.state? = some .deployed →
          ∃ payload, y.1.Prepares setup payload
            ∧ y.1.config.template.Shows setup.conditions.vars
              (y.1.config.values setup.conditions.vars y.1.books.registry).escape payload y.2 v)
  := by
  obtain ⟨f, texts, rfl, htexts, hparse⟩ := Parameter.exists_fragment_of_resolve h
  refine ⟨f, texts, rfl, htexts, hparse, ?_, ?_⟩
  · intro vars properties key hkey
    have hbound : properties.escape.find? key = some (.fragment f) := by
      rw [Properties.find?_escape, hkey]
      rfl
    constructor
    · rw [Template.fill, hbound]
      rfl
    · intro t payload hrender
      apply Template.shows_of_render hrender hbound
  · intro x y hchain hx
    have hy := resolves_of_hands hchain hx
    use hy
    intro hmem hstate
    obtain ⟨payload, hprepares, hshows⟩ := exists_prepares hmem hstate
    exact ⟨payload, hprepares, hshows _ _ hy⟩

end Job

/-! ### Labels -/

namespace Sample

/-- Labels, one of which is a list itself. -/
def labels : List Parameter :=
  [.value (.text "a, \"b\"\n"), .list [.value (.bool true), .value .null], .value (.fragment "]")]

/-- A dashboard with labels. -/
def labelled : Config :=
  { board with
    coordinate := ⟨"shop", "dashboard", "labelled"⟩
    parameters := .ofList [(nameParameter, .value (.text "Labelled")), ("labels", .list labels)] }

/-- A dashboard that shows the labels of another one. -/
def cloud : Config :=
  { board with
    coordinate := ⟨"shop", "dashboard", "cloud"⟩
    template := ⟨"cloud.json", "[\x7b\x7b .words \x7d\x7d]"⟩
    parameters := .ofList [(nameParameter, .value (.text "Cloud")),
      ("words", .reference ⟨labelled.coordinate, "labels"⟩)] }

def labelling : Job :=
  .inOrder [labelled, cloud]

end Sample

/-- The labels reach the other dashboard as the fragment that they are. -/
theorem list_fragments_labels :
  ∃ f texts u v, List.Forall₂ (Parameter.HasText .empty .empty (Sample.labelled.site "labels"))
      Sample.labels texts
    ∧ Json.parse ("[" ++ f ++ "]").toList = .ok (Json.ofTexts texts)
    ∧ Sample.labelling.visits Sample.setup Sample.session = [u, v]
    ∧ v.Resolves Sample.setup "words" (.fragment f)
  := by
  have hvisits : (Sample.labelling.visits Sample.setup Sample.session).map (fun v =>
      (v.environment, v.state?)) = [("test", some .deployed), ("test", some .deployed)] := by
    decide +kernel
  obtain ⟨u, v, hsplit, hfacts, hfacts'⟩ := Visit.pair_of_map hvisits
  obtain ⟨henvironment, hdeployed⟩ := Prod.mk.inj hfacts
  obtain ⟨henvironment', hdeployed'⟩ := Prod.mk.inj hfacts'
  obtain ⟨rest, hconfigs⟩ := Job.configs_of_visits hsplit
  obtain ⟨hlabelled, hcloud, -⟩ : Sample.labelled = u.config ∧ Sample.cloud = v.config
      ∧ [] = rest := by
    simpa [Sample.labelling, Job.items] using hconfigs
  obtain ⟨value, hvalue, hresolves⟩ : ∃ value, (Parameter.list Sample.labels).resolve .empty
      .empty (Sample.labelled.site "labels") = .ok value
      ∧ (Sample.labelled.values .empty u.books.registry).find? "labels" = some value :=
    ⟨_, rfl, rfl⟩
  have hv : v ∈ Sample.labelling.visits Sample.setup Sample.session := by simp [hsplit]
  have hrefers : Sample.labelling.Refers Sample.setup Sample.session (u, "labels")
      (v, "words") := by
    refine Job.refers_of_adjacent [] hsplit ?_ hdeployed
      (Job.parameterErrors_of_deployed hv hdeployed') ?_
    · rw [henvironment, henvironment']
    · rw [← hcloud, ← hlabelled]
      rfl
  obtain ⟨f, texts, rfl, htexts, hparse, -, hchains⟩ :=
    Job.list_fragments hvalue Sample.labelling Sample.setup Sample.session
  refine ⟨f, texts, u, v, htexts, hparse, hsplit, ?_⟩
  refine (hchains (u, "labels") (v, "words") (.single ⟨hrefers, ?_, ?_⟩) ?_).1
  · exact (by decide : "labels" ≠ idProperty)
  · intro hname
    exact absurd hname (by decide : "labels" ≠ nameParameter)
  · rw [Visit.Resolves, ← hlabelled]
    exact hresolves

/-! ### An emblem -/

namespace Sample

/-- A dashboard that is named by a list. -/
def emblem : Config :=
  { board with
    coordinate := ⟨"shop", "dashboard", "emblem"⟩
    template := ⟨"emblem.json", "[\x7b\x7b .name \x7d\x7d]"⟩
    parameters := .ofList [(nameParameter, .list [.value (.text "x")])] }

/-- A dashboard that shows the name of that one as a list. -/
def badge : Config :=
  { board with
    coordinate := ⟨"shop", "dashboard", "badge"⟩
    template := ⟨"badge.json", "[\x7b\x7b .tags \x7d\x7d]"⟩
    parameters := .ofList [(nameParameter, .value (.text "Badge")),
      ("tags", .reference ⟨emblem.coordinate, nameParameter⟩)] }

def emblems : Job :=
  .inOrder [emblem, badge]

end Sample

/-- The name of the emblem is a list, but others read the name that the platform tells, which is a
plain text.  It is escaped, and the badge, which would be fine with the list, fails. -/
theorem list_escaped_emblem :
  ∃ u v, Sample.emblems.visits Sample.setup Sample.session = [u, v]
    ∧ u.Resolves Sample.setup nameParameter (.fragment "\"x\"") ∧ u.state? = some .deployed
    ∧ Sample.emblems.Refers Sample.setup Sample.session (u, nameParameter) (v, "tags")
    ∧ v.config.template.render Sample.setup.conditions.vars
        (v.config.values Sample.setup.conditions.vars v.books.registry).escape
      = .ok "[\\\"x\\\"]"
    ∧ v.state? = some .failed
    ∧ Json.parse ("[" ++ "\"x\"" ++ "]").toList = .ok (Json.ofTexts ["x"])
  := by
  have hvisits : (Sample.emblems.visits Sample.setup Sample.session).map (fun v =>
      (v.environment, v.state?,
        (v.config.parameterErrors Sample.setup.conditions.vars v.books.registry).isEmpty,
        (v.config.template.render Sample.setup.conditions.vars
          (v.config.values Sample.setup.conditions.vars v.books.registry).escape).toOption))
      = [("test", some .deployed, true, some "[\"x\"]"),
        ("test", some .failed, true, some "[\\\"x\\\"]")] := by
    decide +kernel
  obtain ⟨u, v, hsplit, hfacts, hfacts'⟩ := Visit.pair_of_map hvisits
  obtain ⟨henvironment, hdeployed, -⟩ := by simpa using hfacts
  obtain ⟨henvironment', hfailed, hresolved, hrender⟩ := by simpa using hfacts'
  obtain ⟨rest, hconfigs⟩ := Job.configs_of_visits hsplit
  obtain ⟨hemblem, hbadge, -⟩ : Sample.emblem = u.config ∧ Sample.badge = v.config
      ∧ [] = rest := by
    simpa [Sample.emblems, Job.items] using hconfigs
  refine ⟨u, v, hsplit, ?_, hdeployed, ?_, ?_, hfailed, ?_⟩
  · rw [Visit.Resolves, ← hemblem]
    rfl
  · refine Job.refers_of_adjacent [] hsplit ?_ hdeployed hresolved ?_
    · rw [henvironment, henvironment']
    · rw [← hbadge, ← hemblem]
      rfl
  · cases hpayload : v.config.template.render Sample.setup.conditions.vars
        (v.config.values Sample.setup.conditions.vars v.books.registry).escape with
    | error failure =>
      rw [hpayload] at hrender
      cases hrender
    | ok payload =>
      rw [hpayload] at hrender
      rw [Option.some.inj hrender]
  · apply Json.parse_render (x := Json.ofTexts ["x"])
    rfl

end Rollout
