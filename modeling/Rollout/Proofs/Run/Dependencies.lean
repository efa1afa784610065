import Rollout.Proofs.Run.Registry

/-!
# The dependencies of what is deployed

A config is deployed, and a client is called for it, only on safe ground: everything that
it refers to, and everything that this refers to in turn, has been deployed before it in
the same environment.
-/

namespace Rollout

variable {σ : Type}

/-- No client is called on a visit: with other clients for the same environments the
deployment would have been the same. -/
def Setup.IsSilent (setup : Setup σ) (v : Visit σ) : Prop :=
  ∀ clients : Clients σ,
    (∀ environment, (clients environment).isSome = (setup.clients environment).isSome) →
      { setup with clients }.deploy v.environment v.config v.books v.session = v.deployed

/-- A coordinate is grounded in what has happened in an environment: of the visits there
that left something behind, the latest one deployed its config, and all that this config
refers to are other coordinates that were grounded before. -/
inductive Grounded (environment : String) : List (Visit σ) → Coordinate → Prop where
  | intro {before after : List (Visit σ)} {v : Visit σ} {t : Coordinate}
      (here : v.IsAt environment t)
      (deployed : v.state? = some .deployed)
      (failed : ∀ u ∈ after, u.IsAt environment t → u.state? = some .failed)
      (others : ∀ r ∈ v.config.references, r ≠ t)
      (grounded : ∀ r ∈ v.config.references, Grounded environment before r) :
      Grounded environment (before ++ v :: after) t

/-- A config that is deployed passes every check, and so does one that a client is called
for. -/
theorem Setup.exists_passes
    {setup : Setup σ} {v : Visit σ}
    (hv : v.deployed = setup.deploy v.environment v.config v.books v.session)
    (h : v.state? = some .deployed ∨ ¬ setup.IsSilent v) :
  ∃ plan, v.config.Passes setup.conditions v.books.registry v.books.names plan
  := by
  rcases h with hstate | hcalled
  · obtain ⟨o, ho, hstate⟩ := Option.map_eq_some_iff.mp hstate
    rw [Visit.outcome?_eq_some_iff, hv] at ho
    rcases setup.course_visit v.environment v.config v.books v.session
      with ⟨mode, hcourse⟩ | hunserved
    · apply hcourse.exists_passes ho hstate
    · rw [hunserved] at ho
      cases ho
      cases hstate
  · by_contra hno
    apply hcalled
    intro clients hclients
    have hpasses : ∀ plan,
        ¬ v.config.Passes setup.conditions v.books.registry v.books.names plan := by
      intro plan hplan
      apply hno ⟨plan, hplan⟩
    rw [hv, deploy, deploy]
    split
    · rfl
    · have hsome := hclients v.environment
      cases hold : setup.clients v.environment with
      | none =>
        rw [hold, Option.isSome_none, Option.isSome_eq_false_iff, Option.isNone_iff_eq_none]
          at hsome
        simp only [hsome]
      | some client =>
        rw [hold, Option.isSome_some, Option.isSome_iff_exists] at hsome
        obtain ⟨client', hclient'⟩ := hsome
        simp only [hclient']
        apply Config.deploy_eq_of_not_passes hpasses

namespace Job

variable {job : Job} {setup : Setup σ} {s : Session σ} {before after : List (Visit σ)}
  {v : Visit σ}

/-- What is offered in the registry was deployed by a visit, and all later ones there
failed. -/
theorem exists_visit_of_offers
    (h : job.visits setup s = before ++ v :: after) {t : Coordinate}
    (ht : v.books.registry.Offers t) :
  ∃ before' u after', before = before' ++ u :: after' ∧ u.IsAt v.environment t
    ∧ u.state? = some .deployed
    ∧ ∀ w ∈ after', w.IsAt v.environment t → w.state? = some .failed
  := by
  obtain ⟨e, he, hskip⟩ := ht
  rw [registry_visit h] at he
  obtain ⟨before', u, after', rfl, hat, hentity, hlater⟩ := Visit.latest?_eq_some he
  use before', u, after', rfl, hat
  constructor
  · have hmem : u ∈ job.visits setup s := by simp [h]
    apply deployed_of_entity? hmem hentity hskip
  · intro w hw hat'
    apply failed_of_entity? h _ (hlater w hw hat')
    simp [hw]

/-- Whatever a config refers to that is deployed, or that a client is called for, is another
coordinate that is grounded in the visits before it. -/
theorem grounded_of_deployed
    (h : job.visits setup s = before ++ v :: after)
    (hv : v.state? = some .deployed ∨ ¬ setup.IsSilent v) :
  ∀ t ∈ v.config.references, t ≠ v.config.coordinate ∧ Grounded v.environment before t
  := by
  induction hlength : before.length using Nat.strongRecOn generalizing before v after with
  | ind n ih =>
    intro t ht
    have hmem : v ∈ job.visits setup s := by simp [h]
    obtain ⟨plan, hplan⟩ := Setup.exists_passes (deployed_visit hmem) hv
    obtain ⟨hne, hoffers⟩ := hplan.offers t ht
    use hne
    obtain ⟨before', u, after', rfl, hat, hdeployed, hfailed⟩ := exists_visit_of_offers h hoffers
    have hsplit : job.visits setup s = before' ++ u :: (after' ++ v :: after) := by simp [h]
    have hshorter : before'.length < n := by
      rw [← hlength, List.length_append, List.length_cons]
      omega
    have hu := ih before'.length hshorter hsplit (.inl hdeployed) rfl
    rw [hat.1] at hu
    apply Grounded.intro hat hdeployed hfailed
    · intro r hr
      rw [← hat.2]
      apply (hu r hr).1
    · intro r hr
      apply (hu r hr).2

/-- Dependencies are safe in every run: whatever a config refers to that is deployed, or that
a client is called for, is another coordinate that is grounded in the visits before it.  The
report tells of these visits, and they alone make the clients what they are. -/
theorem dependencies_safe
    (job : Job) (setup : Setup σ) (s : Session σ) :
  (∀ report s', job.run setup s = .ok (report, s') →
      s'.client = Visit.clientAfter s.client (job.visits setup s)
        ∧ ∀ environment, (report.environment environment).outcomes
          = Visit.outcomes environment (job.visits setup s))
    ∧ ∀ before v after, job.visits setup s = before ++ v :: after →
        v.session.client = Visit.clientAfter s.client before
          ∧ (v.state? = some .deployed ∨ ¬ setup.IsSilent v →
            ∀ t ∈ v.config.references,
              t ≠ v.config.coordinate ∧ Grounded v.environment before t)
  := by
  constructor
  · intro report s' h
    use client_run h
    intro environment
    apply (environment_run h environment).1
  · intro before v after h
    use client_visit h
    intro hv
    apply grounded_of_deployed h hv

end Job

namespace Sample

/-- A dashboard that shows the first one, by a reference inside a list. -/
def overview : Config where
  coordinate := ⟨"shop", "dashboard", "overview"⟩
  target := .classic "dashboard"
  template := ⟨"overview.json", "[]"⟩
  parameters := .ofList [(nameParameter, .value (.text "Overview")),
    ("shown", .list [.reference ⟨board.coordinate, idProperty⟩])]
  skip := .fixed false
  environment := "test"
  group := ""

def setup : Setup Recording :=
  ⟨conditions, {}, .single Recording.client, fun _ => false⟩

end Sample

/-- The dashboard that shows another one is deployed on the ground of that one. -/
theorem dependencies_safe_overview :
  ∃ before v after,
    (Job.inOrder [Sample.board, Sample.overview]).visits Sample.setup Sample.session
      = before ++ v :: after
    ∧ v.state? = some .deployed ∧ v.config.references = [Sample.board.coordinate]
    ∧ Grounded v.environment before Sample.board.coordinate
  := by
  have hvisits : ((Job.inOrder [Sample.board, Sample.overview]).visits Sample.setup
      Sample.session).map (fun v => (v.config.references, v.state?))
      = [([], some .deployed), ([Sample.board.coordinate], some .deployed)] := by decide +kernel
  obtain ⟨u, v, hsplit, -, hv⟩ := Visit.pair_of_map hvisits
  obtain ⟨hreferences, hstate⟩ := Prod.mk.inj hv
  have hmem : Sample.board.coordinate ∈ v.config.references := by
    rw [hreferences]
    apply List.mem_singleton_self
  obtain ⟨-, hsafe⟩ := (Job.dependencies_safe (.inOrder [Sample.board, Sample.overview])
    Sample.setup Sample.session).2 [u] v [] hsplit
  exact ⟨[u], v, [], hsplit, hstate, hreferences, (hsafe (.inl hstate) _ hmem).2⟩

end Rollout
