import Rollout.Proofs.Deploy.Course
import Rollout.Proofs.Run.Jobs

/-!
# The registry in the course of a run

What a config meets in the registry of its environment is what the configs before it left
there: under each coordinate the entity of the latest visit that left one, and nothing if
all visits there failed.
-/

namespace Rollout

variable {σ : Type}

/-! ### One visit -/

/-- A deployment that is contained enters the entity of its outcome, if there is one. -/
theorem Config.Contained.find?_registry
    {c : Config} {conditions : Conditions} {b : Books} {s : Session σ} {o : Outcome}
    {d : Deployed σ} (h : c.Contained conditions b s o d) (t : Coordinate) :
  d.books.registry.find? t
    = if c.coordinate = t then o.entity.or (b.registry.find? t) else b.registry.find? t
  := by
  cases hstate : o.state with
  | pending => exact absurd hstate h.not_pending
  | failed =>
    rw [(h.failed hstate).1, h.failed_iff_entity.mp hstate, Option.none_or, ite_self]
  | skipped =>
    obtain ⟨-, -, -, e, he, -, -, hregistry⟩ := h.skipped hstate
    rw [hregistry, Table.find?_insert, he, Option.some_or]
  | deployed =>
    obtain ⟨⟨e, he, -, hregistry⟩, -⟩ := h.deployed hstate
    rw [hregistry, Table.find?_insert, he, Option.some_or]

namespace Setup

/-- A deployment takes one of the courses, unless there is no client for it. -/
theorem course_visit
    (setup : Setup σ) (environment : String) (c : Config) (b : Books) (s : Session σ) :
  (∃ mode, c.Course setup.conditions mode environment b s (setup.deploy environment c b s))
    ∨ setup.deploy environment c b s = ⟨.ok (c.unserved environment), b, s⟩
  := by
  rw [deploy]
  split
  · left
    exact ⟨_, c.course_deploy _ _ _ _ _⟩
  · split
    · right
      rfl
    · left
      exact ⟨_, c.course_deploy _ _ _ _ _⟩

theorem contained_visit
    {setup : Setup σ} {environment : String} {c : Config} {b : Books} {s : Session σ}
    {o : Outcome} (h : (setup.deploy environment c b s).result = .ok o) :
  c.Contained setup.conditions b s o (setup.deploy environment c b s)
  := by
  rcases setup.course_visit environment c b s with ⟨mode, hcourse⟩ | hunserved
  · apply hcourse.contained h
  · rw [hunserved] at h ⊢
    cases h
    apply Config.Contained.of_failed
    · rfl
    · simp [Config.unserved]
    · rfl
    · rfl
    · rfl

end Setup

/-! ### All visits so far -/

namespace Visit

/-- What a visit left behind at a coordinate of an environment. -/
def leftAt? (environment : String) (t : Coordinate) (v : Visit σ) : Option Entity :=
  if v.IsAt environment t then v.entity? else none

/-- What the latest visit at a coordinate of an environment left behind, of those that left
something. -/
def latest? (environment : String) (t : Coordinate) (history : List (Visit σ)) : Option Entity :=
  history.reverse.findSome? (leftAt? environment t)

variable {environment : String} {t : Coordinate} {history : List (Visit σ)}

theorem latest?_concat
    (environment : String) (t : Coordinate) (history : List (Visit σ)) (v : Visit σ) :
  latest? environment t (history ++ [v])
    = (v.leftAt? environment t).or (latest? environment t history)
  := by
  rw [latest?, List.reverse_concat, List.findSome?_cons, latest?]
  cases v.leftAt? environment t <;> rfl

theorem latest?_eq_none
    (h : latest? environment t history = none) :
  ∀ v ∈ history, v.IsAt environment t → v.entity? = none
  := by
  intro v hv hat
  have hleft := List.findSome?_eq_none_iff.mp h v (List.mem_reverse.mpr hv)
  rw [leftAt?, if_pos hat] at hleft
  apply hleft

theorem latest?_eq_some
    {e : Entity} (h : latest? environment t history = some e) :
  ∃ before v after, history = before ++ v :: after ∧ v.IsAt environment t
    ∧ v.entity? = some e ∧ ∀ u ∈ after, u.IsAt environment t → u.entity? = none
  := by
  obtain ⟨later, v, earlier, hsplit, hleft, hlater⟩ := List.findSome?_eq_some_iff.mp h
  rw [leftAt?] at hleft
  split at hleft
  · rename_i hat
    use earlier.reverse, v, later.reverse
    constructor
    · rw [← List.reverse_reverse history, hsplit]
      simp
    · use hat, hleft
      intro u hu huat
      have hnone := hlater u (List.mem_reverse.mp hu)
      rw [leftAt?, if_pos huat] at hnone
      apply hnone
  · cases hleft

end Visit

namespace Job

variable {job : Job} {setup : Setup σ} {s : Session σ} {before after : List (Visit σ)}
  {v : Visit σ}

theorem mem_visits
    (h : job.visits setup s = before ++ v :: after) :
  v ∈ job.visits setup s
  := by
  rw [h]
  apply List.mem_append_right _ List.mem_cons_self

/-- A visit of a run is the deployment of its config from what it meets. -/
theorem deployed_visit
    (h : v ∈ job.visits setup s) :
  v.deployed = setup.deploy v.environment v.config v.books v.session
  := by
  obtain ⟨before, after, h⟩ := List.append_of_mem h
  obtain ⟨hv, -⟩ := Setup.visits_split h
  rw [hv]
  rfl

theorem contained_outcome
    (h : v ∈ job.visits setup s) {o : Outcome} (ho : v.outcome? = some o) :
  v.config.Contained setup.conditions v.books v.session o v.deployed
  := by
  rw [Visit.outcome?_eq_some_iff] at ho
  rw [deployed_visit h] at ho ⊢
  apply Setup.contained_visit ho

/-- An earlier visit that left nothing behind failed. -/
theorem failed_of_entity?
    (h : job.visits setup s = before ++ v :: after) {u : Visit σ} (hu : u ∈ before)
    (hentity : u.entity? = none) :
  u.state? = some .failed
  := by
  obtain ⟨-, hbefore, -⟩ := Setup.visits_split h
  obtain ⟨o, ho⟩ := hbefore u hu
  have hmem : u ∈ job.visits setup s := by
    rw [h]
    apply List.mem_append_left _ hu
  rw [Visit.entity?, ho] at hentity
  rw [Visit.state?, ho, Option.map_some, Option.some_inj]
  apply (contained_outcome hmem ho).failed_iff_entity.mpr hentity

/-- A visit that left behind something that is not skipped deployed its config. -/
theorem deployed_of_entity?
    (h : v ∈ job.visits setup s) {e : Entity} (he : v.entity? = some e) (hskip : e.skip = false) :
  v.state? = some .deployed
  := by
  obtain ⟨o, ho, hentity⟩ := Option.bind_eq_some_iff.mp he
  have hcontained := contained_outcome h ho
  rw [Visit.state?, ho, Option.map_some, Option.some_inj]
  cases hstate : o.state with
  | pending => exact absurd hstate hcontained.not_pending
  | deployed => rfl
  | failed =>
    rw [hcontained.failed_iff_entity.mp hstate] at hentity
    cases hentity
  | skipped =>
    obtain ⟨-, -, -, e', he', hskip', -⟩ := hcontained.skipped hstate
    rw [hentity] at he'
    cases he'
    rw [hskip] at hskip'
    cases hskip'

/-- After some visits the registry of an environment holds what these left behind. -/
theorem registry_booksAfter
    {history rest : List (Visit σ)} (h : job.visits setup s = history ++ rest)
    (environment : String) (t : Coordinate) :
  (job.booksAfter setup s history environment).registry.find? t
    = Visit.latest? environment t history
  := by
  induction history using List.reverseRecOn generalizing rest with
  | nil =>
    rw [booksAfter_nil]
    rfl
  | append_singleton history v ih =>
    rw [List.append_assoc, List.singleton_append] at h
    rw [booksAfter_concat, Visit.latest?_concat, ← ih h]
    split
    · rename_i hthere
      obtain ⟨rfl, hsome⟩ := hthere
      obtain ⟨o, ho⟩ := Option.isSome_iff_exists.mp hsome
      rw [(contained_outcome (mem_visits h) ho).find?_registry, books_visit h]
      simp only [Visit.leftAt?, Visit.IsAt, Visit.entity?, ho, true_and, Option.bind_some]
      split
      · rfl
      · rfl
    · rename_i hthere
      have hnone : v.leftAt? environment t = none := by
        rw [Visit.leftAt?]
        split
        · rename_i hat
          cases ho : v.outcome? with
          | none => rw [Visit.entity?, ho, Option.bind_none]
          | some o => exact absurd ⟨hat.1, by rw [ho, Option.isSome_some]⟩ hthere
        · rfl
      rw [hnone, Option.none_or]

/-- A visit of a run meets what the latest visit before it left behind in its environment. -/
theorem registry_visit
    (h : job.visits setup s = before ++ v :: after) (t : Coordinate) :
  v.books.registry.find? t = Visit.latest? v.environment t before
  := by
  rw [books_visit h]
  apply registry_booksAfter h

end Job

end Rollout
