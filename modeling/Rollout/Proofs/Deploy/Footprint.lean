import Rollout.Proofs.Deploy.Agreement
import Rollout.Proofs.Run.Calls

/-!
# What a deployment reads

Of everything that has been deployed before, a deployment reads what its config refers to.
Whatever else there is in the registry, it ends in the same way, calls the platform for the
same, and enters the same entity, so the references of a config are all that its place among
the other configs depends on.
-/

namespace Rollout

variable {σ : Type}

/-! ### The calls of a deployment -/

/-- A mode with its client under watch. -/
def Mode.watched : Mode σ → Mode (σ × List Call)
  | .validate => .validate
  | .push client => .push client.watched

theorem Mode.views_watched
    (mode : Mode σ) :
  mode.watched.Views Prod.fst mode
  := by
  cases mode with
  | validate => exact .validate
  | push client => exact .push client.views_watched

namespace Config

/-- What a deployment leads to when it is done under watch. -/
def deployWatched (c : Config) (conditions : Conditions) (mode : Mode σ) (environment : String)
    (b : Books) (s : Session σ) : Deployed (σ × List Call) :=
  c.deploy conditions mode.watched environment b s.watched

/-- A deployment under watch leads to the same as any other. -/
theorem view_deployWatched
    (c : Config) (conditions : Conditions) (mode : Mode σ) (environment : String) (b : Books)
    (s : Session σ) :
  (c.deployWatched conditions mode environment b s).view Prod.fst
    = c.deploy conditions mode environment b s
  := by
  rw [deployWatched, ← c.deploy_view mode.views_watched]
  rfl

/-- The calls of a deployment with their answers. -/
def calls (c : Config) (conditions : Conditions) (mode : Mode σ) (environment : String)
    (b : Books) (s : Session σ) : List Call :=
  (c.deployWatched conditions mode environment b s).session.client.2

end Config

/-! ### Deployments that are alike -/

/-- The registry with an entity entered under its coordinate, if there is one. -/
def Registry.enter (registry : Registry) : Option Entity → Registry
  | none => registry
  | some e => registry.insert e.coordinate e

/-- Two deployments of a config, each in front of a registry of its own, lead to the same and
add the same to their registries. -/
structure Deployed.Alike (c : Config) (registry registry' : Registry) (d d' : Deployed σ) :
    Prop where
  /-- The state, the variant, the errors and the entity are the same, or what ends the run. -/
  result : d.result = d'.result
  session : d.session = d'.session
  names : d.books.names = d'.books.names
  /-- The same entity is entered under the coordinate of the config, or none is. -/
  entered : ∃ entity : Option Entity,
    d.books.registry = registry.enter entity ∧ d'.books.registry = registry'.enter entity
      ∧ (∀ e ∈ entity, e.coordinate = c.coordinate) ∧ ∀ o, d.result = .ok o → o.entity = entity

namespace Deployed.Alike

variable {c : Config} {registry registry' : Registry} {result : Except Fault Outcome}

/-- If an entity has been entered, both registries hold it under the coordinate of the config. -/
theorem find?_eq
    {d d' : Deployed σ} {o : Outcome} {e : Entity} (halike : d.Alike c registry registry' d')
    (h : d.result = .ok o) (he : o.entity = some e) :
  d.books.registry.find? c.coordinate = some e ∧ d'.books.registry.find? c.coordinate = some e
  := by
  obtain ⟨entity, hregistry, hregistry', hcoordinate, hentity⟩ := halike.entered
  obtain rfl : some e = entity := he ▸ hentity o h
  have hkey := hcoordinate e rfl
  have hfind : ∀ registry : Registry, (registry.enter (some e)).find? c.coordinate = some e := by
    intro registry
    rw [Registry.enter, Table.find?_insert, if_pos hkey]
  rw [hregistry, hregistry']
  exact ⟨hfind registry, hfind registry'⟩

/-- Deployments that enter nothing. -/
theorem of_kept
    {b b' : Books} (hnames : b.names = b'.names) (s : Session σ)
    (hentity : ∀ o, result = .ok o → o.entity = none) :
  Alike c b.registry b'.registry ⟨result, b, s⟩ ⟨result, b', s⟩
  := by
  refine ⟨rfl, rfl, hnames, none, rfl, rfl, ?_, hentity⟩
  intro e he
  cases he

/-- Deployments that enter one entity. -/
theorem of_insert
    {e : Entity} {names names' : NameIndex} (hnames : names = names')
    (hkey : e.coordinate = c.coordinate) (s : Session σ)
    (hentity : ∀ o, result = .ok o → o.entity = some e) :
  Alike c registry registry' ⟨result, ⟨registry.insert c.coordinate e, names⟩, s⟩
    ⟨result, ⟨registry'.insert c.coordinate e, names'⟩, s⟩
  := by
  have henter : ∀ registry : Registry,
      registry.insert c.coordinate e = registry.enter (some e) := by
    intro registry
    rw [Registry.enter, hkey]
  refine ⟨rfl, rfl, hnames, some e, henter registry, henter registry', ?_, hentity⟩
  intro e' he'
  cases he'
  apply hkey

end Deployed.Alike

theorem Books.names_addDeployed_congr
    {b b' : Books} (h : b.names = b'.names) (c : Config) (plan : Plan) (remote : RemoteEntity) :
  (b.addDeployed c plan remote).names = (b'.addDeployed c plan remote).names
  := by
  simp only [addDeployed, h]

/-- To carry out a decision takes nothing from the registry. -/
theorem Decision.carryOut_alike
    {b b' : Books} (h : b.names = b'.names) (d : Decision) (mode : Mode σ) (c : Config)
    (environment : String) (s : Session σ) :
  (d.carryOut mode c environment b s).Alike c b.registry b'.registry
    (d.carryOut mode c environment b' s)
  := by
  cases d with
  | skip =>
    apply Deployed.Alike.of_insert h rfl
    intro o ho
    cases ho
    rfl
  | fail variant errors =>
    apply Deployed.Alike.of_kept h
    intro o ho
    cases ho
    rfl
  | push plan =>
    simp only [carryOut]
    cases plan.carryOut mode c s.client with
    | mk answer state =>
      cases answer with
      | error cause =>
        apply Deployed.Alike.of_kept h
        intro o ho
        cases ho
        rfl
      | ok remote =>
        have hnames := Books.names_addDeployed_congr h c plan remote
        dsimp only
        split
        · apply Deployed.Alike.of_insert hnames rfl
          intro o ho
          cases ho
          rfl
        · apply Deployed.Alike.of_insert hnames rfl
          intro o ho
          cases ho

/-! ### The footprint -/

namespace Config

variable {c : Config}

/-- Registries that agree at the coordinates that a config depends on agree on everything that
it refers to. -/
theorem agreeOn_of_find?
    {registry registry' : Registry}
    (h : ∀ t ∈ c.references, registry.find? t = registry'.find? t) :
  c.AgreeOn registry registry'
  := by
  intro r hr
  rw [Registry.read, Registry.read, h]
  rw [references, Template.mem_distinct]
  apply List.mem_map_of_mem hr

theorem AgreeOn.notices
    {registry registry' : Registry} (h : c.AgreeOn registry registry') (conditions : Conditions) :
  c.notices conditions registry = c.notices conditions registry'
  := by
  rw [Config.notices, Config.notices, h.skipIsTooDeep, h.isSkipped]

theorem AgreeOn.deploy
    {b b' : Books} (h : c.AgreeOn b.registry b'.registry) (hnames : b.names = b'.names)
    (conditions : Conditions) (mode : Mode σ) (environment : String) (s : Session σ) :
  (c.deploy conditions mode environment b s).Alike c b.registry b'.registry
    (c.deploy conditions mode environment b' s)
  := by
  simp only [Config.deploy, h.notices, h.decide, hnames]
  cases c.decide conditions b'.registry b'.names with
  | error fault =>
    apply Deployed.Alike.of_kept hnames
    intro o ho
    cases ho
  | ok d => apply d.carryOut_alike hnames

/-- In front of registries that agree at the coordinates that a config depends on, with all
else the same, its deployments are alike and make the same calls. -/
theorem deploy_alike
    {b b' : Books} (hnames : b.names = b'.names)
    (hread : ∀ t ∈ c.references, b.registry.find? t = b'.registry.find? t)
    (conditions : Conditions) (mode : Mode σ) (environment : String) (s : Session σ) :
  (c.deploy conditions mode environment b s).Alike c b.registry b'.registry
      (c.deploy conditions mode environment b' s)
    ∧ c.calls conditions mode environment b s = c.calls conditions mode environment b' s
  := by
  have hagree := agreeOn_of_find? hread
  constructor
  · apply hagree.deploy hnames
  · have hwatched := hagree.deploy hnames conditions mode.watched environment s.watched
    rw [calls, calls, deployWatched, deployWatched, hwatched.session]

end Config

/-! ### A page -/

namespace Sample

/-- A switch that other configs can be left out by. -/
def switch : Coordinate :=
  ⟨"shop", "dashboard", "switch"⟩

/-- A page that shows the board and its name, unless the switch is off. -/
def page : Config where
  coordinate := ⟨"shop", "dashboard", "page"⟩
  target := .classic "dashboard"
  template := ⟨"page.json", "[]"⟩
  parameters := .ofList [(nameParameter, .value (.text "Page")),
    ("shown", .list [.reference ⟨board.coordinate, idProperty⟩,
      .list [.reference ⟨board.coordinate, nameParameter⟩]])]
  skip := .parameter (.reference ⟨switch, "off"⟩)
  environment := "test"
  group := ""

/-- The board and the switch. -/
def shopBooks : Books :=
  ⟨.ofList [(board.coordinate, ⟨"Board", board.coordinate,
      .ofList [(idProperty, .text "17"), (nameParameter, .text "Board")], false⟩),
    (switch, ⟨"Switch", switch, .ofList [("off", .bool false)], false⟩)], .empty⟩

/-- A draft that was left out. -/
def draft : Entity :=
  ⟨"Draft", ⟨"shop", "dashboard", "draft"⟩, .empty, true⟩

/-- The board and the switch among others, and what the page left behind before. -/
def fullBooks : Books :=
  ⟨(shopBooks.registry.enter (some draft)).enter (some page.skippedEntity), .empty⟩

end Sample

/-- The page is deployed in front of the full books as it is in front of what it needs. -/
theorem deploy_alike_page :
  Sample.shopBooks.names = Sample.fullBooks.names
    ∧ (∀ t ∈ Sample.page.references,
      Sample.shopBooks.registry.find? t = Sample.fullBooks.registry.find? t)
    ∧ Sample.shopBooks.registry.contains Sample.page.coordinate = false
    ∧ Sample.fullBooks.registry.contains Sample.page.coordinate = true
    ∧ (Sample.page.deploy Sample.conditions (.push Recording.client) "test" Sample.shopBooks
      Sample.session).result.toOption.map Outcome.state = some .deployed
    ∧ (Sample.page.deploy Sample.conditions (.push Recording.client) "test" Sample.shopBooks
        Sample.session).Alike Sample.page Sample.shopBooks.registry Sample.fullBooks.registry
        (Sample.page.deploy Sample.conditions (.push Recording.client) "test" Sample.fullBooks
          Sample.session)
    ∧ Sample.page.calls Sample.conditions (.push Recording.client) "test" Sample.shopBooks
        Sample.session
      = Sample.page.calls Sample.conditions (.push Recording.client) "test" Sample.fullBooks
        Sample.session
  := by
  have hnames : Sample.shopBooks.names = Sample.fullBooks.names := rfl
  have hothers : ∀ t ∈ Sample.page.references,
      Sample.page.coordinate ≠ t ∧ Sample.draft.coordinate ≠ t := by decide +kernel
  have hread : ∀ t ∈ Sample.page.references,
      Sample.shopBooks.registry.find? t = Sample.fullBooks.registry.find? t := by
    intro t ht
    obtain ⟨hpage, hdraft⟩ := hothers t ht
    simp only [Sample.fullBooks, Registry.enter, Table.find?_insert, if_neg hdraft]
    symm
    apply if_neg hpage
  refine ⟨hnames, hread, ?_, ?_, ?_, ?_⟩
  · decide +kernel
  · decide +kernel
  · decide +kernel
  · apply Config.deploy_alike hnames hread

end Rollout
