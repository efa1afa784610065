import Mathlib.Data.List.Induction
import Mathlib.Tactic.Use
import Rollout.Run.Loop

/-!
# The visits of a run

A run visits its configs one after another.  A visit holds what a config met and what its
deployment led to, and the progress of a run is a fold over its visits: each visit is the
next deployment from there, and the report tells of the visits and of nothing else.
-/

namespace Rollout

variable {σ : Type}

/-- A config that a run has come to. -/
structure Visit (σ : Type) where
  environment : String
  config : Config
  /-- The books of the environment in front of it. -/
  books : Books
  /-- The session in front of it. -/
  session : Session σ
  /-- What deploying it led to. -/
  deployed : Deployed σ

namespace Visit

/-- The outcome, unless the run ended there. -/
def outcome? (v : Visit σ) : Option Outcome :=
  v.deployed.result.toOption

def state? (v : Visit σ) : Option State :=
  v.outcome?.map Outcome.state

/-- What the config left behind. -/
def entity? (v : Visit σ) : Option Entity :=
  v.outcome?.bind Outcome.entity

/-- The config with its environment. -/
def item (v : Visit σ) : String × Config :=
  (v.environment, v.config)

/-- A config at a coordinate has been visited in an environment. -/
def IsAt (environment : String) (t : Coordinate) (v : Visit σ) : Prop :=
  v.environment = environment ∧ v.config.coordinate = t

instance (environment : String) (t : Coordinate) :
    DecidablePred (IsAt (σ := σ) environment t) :=
  fun _ => inferInstanceAs (Decidable (_ ∧ _))

@[simp]
theorem decide_isAt
    (environment : String) (t : Coordinate) (v : Visit σ) :
  decide (v.IsAt environment t)
    = (decide (v.environment = environment) && decide (v.config.coordinate = t))
  := by
  rw [Bool.eq_iff_iff, Bool.and_eq_true, decide_eq_true_iff, decide_eq_true_iff,
    decide_eq_true_iff, IsAt]

theorem outcome?_eq_some_iff
    {v : Visit σ} {o : Outcome} :
  v.outcome? = some o ↔ v.deployed.result = .ok o
  := by
  rw [outcome?]
  cases v.deployed.result <;> simp [Except.toOption]

/-- The state of the clients after some visits, all of which end in an outcome. -/
def clientAfter (client : σ) (visits : List (Visit σ)) : σ :=
  (visits.getLast?.map (fun v => v.deployed.session.client)).getD client

/-- The outcomes of the visits in an environment. -/
def outcomes (environment : String) (visits : List (Visit σ)) : List Outcome :=
  (visits.filter (fun v => v.environment = environment)).filterMap outcome?

end Visit

/-- The progress of a run after one more visit. -/
def Progress.follow (options : Options) (p : Progress σ) (v : Visit σ) : Progress σ :=
  match v.outcome? with
  | none => p
  | some o =>
    (p.enter options v.environment).add v.environment v.config o v.deployed.books
      v.deployed.session

theorem Progress.follow_of_outcome
    (options : Options) (p : Progress σ) {v : Visit σ} {o : Outcome} (h : v.outcome? = some o) :
  p.follow options v = (p.enter options v.environment).add v.environment v.config o
    v.deployed.books v.deployed.session
  := by
  rw [follow, h]

/-- A visit with an outcome is one more config processed. -/
theorem Progress.processed_follow
    (options : Options) (p : Progress σ) {v : Visit σ} {o : Outcome} (h : v.outcome? = some o) :
  (p.follow options v).processed = p.processed + 1
  := by
  rw [follow_of_outcome options p h]
  rfl

namespace Setup

/-- The progress of a run after some visits. -/
def after (setup : Setup σ) (p : Progress σ) (visits : List (Visit σ)) : Progress σ :=
  visits.foldl (Progress.follow setup.options) p

/-- The visit of a config that comes next. -/
def visit (setup : Setup σ) (p : Progress σ) (environment : String) (c : Config) : Visit σ :=
  let p := p.enter setup.options environment
  let b := (p.report.environment environment).books
  ⟨environment, c, b, p.session, setup.deploy environment c b p.session⟩

/-- The visits of a run, the one that ends it included. -/
def visits (setup : Setup σ) : List (String × Config) → Progress σ → List (Visit σ)
  | [], _ => []
  | (environment, c) :: rest, p =>
    if setup.cancelled p.processed then []
    else
      let v := setup.visit p environment c
      match v.outcome? with
      | none => [v]
      | some o =>
        if o.state = .failed && !setup.options.continueOnError then [v]
        else v :: setup.visits rest (p.follow setup.options v)

theorem after_concat
    (setup : Setup σ) (p : Progress σ) (visits : List (Visit σ)) (v : Visit σ) :
  setup.after p (visits ++ [v]) = (setup.after p visits).follow setup.options v
  := by
  rw [after, List.foldl_append]
  rfl

variable {setup : Setup σ} {items : List (String × Config)} {p p' : Progress σ}

/-- A failure at which a run stops that is not to continue after errors. -/
def Stops (setup : Setup σ) (v : Visit σ) : Prop :=
  v.state? = some .failed ∧ setup.options.continueOnError = false

/-- What a run does with a config: the visits from there on, and how it ends. -/
inductive Step (setup : Setup σ) (environment : String) (c : Config)
    (rest : List (String × Config)) (p : Progress σ) :
    List (Visit σ) → Except Fault (Progress σ) → Prop where
  /-- The run is found cancelled in front of the config. -/
  | cancelled (cancelled : setup.cancelled p.processed = true) :
      Step setup environment c rest p [] (.ok (p.cancel c))
  /-- The deployment of the config ends the run. -/
  | ended {fault : Fault} (outcome : (setup.visit p environment c).outcome? = none) :
      Step setup environment c rest p [setup.visit p environment c] (.error fault)
  /-- The run stops at the failure of the config. -/
  | stopped {o : Outcome} (outcome : (setup.visit p environment c).outcome? = some o)
      (stops : setup.Stops (setup.visit p environment c)) :
      Step setup environment c rest p [setup.visit p environment c]
        (.ok ((p.follow setup.options (setup.visit p environment c)).abort setup.options c))
  /-- The run goes on. -/
  | next {o : Outcome} (outcome : (setup.visit p environment c).outcome? = some o)
      (goes_on : ¬ setup.Stops (setup.visit p environment c)) :
      Step setup environment c rest p
        (setup.visit p environment c
          :: setup.visits rest (p.follow setup.options (setup.visit p environment c)))
        (setup.process rest (p.follow setup.options (setup.visit p environment c)))

/-- A run does with a config what its visit says. -/
theorem process_cons
    (setup : Setup σ) (p : Progress σ) (environment : String) (c : Config)
    (rest : List (String × Config)) :
  setup.process ((environment, c) :: rest) p
    = if setup.cancelled p.processed then .ok (p.cancel c)
      else
        let v := setup.visit p environment c
        match v.deployed.result with
        | .error fault => .error fault
        | .ok o =>
          let q := (p.enter setup.options environment).add environment c o v.deployed.books
            v.deployed.session
          if o.state = .failed && !setup.options.continueOnError then
            .ok (q.abort setup.options c)
          else setup.process rest q
  := by
  rw [process]
  rfl

theorem step_cons
    (setup : Setup σ) (p : Progress σ) (environment : String) (c : Config)
    (rest : List (String × Config)) :
  setup.Step environment c rest p (setup.visits ((environment, c) :: rest) p)
    (setup.process ((environment, c) :: rest) p)
  := by
  rw [visits, process_cons]
  by_cases hcancelled : setup.cancelled p.processed = true
  · rw [if_pos hcancelled, if_pos hcancelled]
    apply Step.cancelled hcancelled
  · rw [if_neg hcancelled, if_neg hcancelled]
    dsimp only
    cases hresult : (setup.visit p environment c).deployed.result with
    | error fault =>
      have ho : (setup.visit p environment c).outcome? = none := by
        rw [Visit.outcome?, hresult]
        rfl
      simp only [ho]
      apply Step.ended ho
    | ok o =>
      have ho := Visit.outcome?_eq_some_iff.mpr hresult
      have hstops : setup.Stops (setup.visit p environment c)
          ↔ (o.state = .failed && !setup.options.continueOnError) = true := by
        simp [Stops, Visit.state?, ho]
      have hfollow : (p.enter setup.options environment).add environment c o
          (setup.visit p environment c).deployed.books
          (setup.visit p environment c).deployed.session
          = p.follow setup.options (setup.visit p environment c) :=
        (Progress.follow_of_outcome setup.options p ho).symm
      simp only [ho, hfollow]
      split
      · rename_i h
        apply Step.stopped ho (hstops.mpr h)
      · rename_i h
        apply Step.next ho (mt hstops.mp h)

/-- A run goes to the first of its configs unless it is cancelled. -/
theorem visit_mem_visits
    {environment : String} {c : Config} (h : setup.cancelled p.processed = false) :
  setup.visit p environment c ∈ setup.visits ((environment, c) :: items) p
  := by
  have hstep := setup.step_cons p environment c items
  generalize setup.visits ((environment, c) :: items) p = visits at hstep ⊢
  generalize setup.process ((environment, c) :: items) p = result at hstep
  cases hstep with
  | cancelled cancelled =>
    rw [h] at cancelled
    cases cancelled
  | ended | stopped | next => exact List.mem_cons_self

/-- A run that is cancelled visits no more configs. -/
theorem step_of_cancelled
    (setup : Setup σ) {environment : String} {c : Config} (rest : List (String × Config))
    (h : setup.cancelled p.processed = true) :
  setup.visits ((environment, c) :: rest) p = []
    ∧ setup.process ((environment, c) :: rest) p = .ok (p.cancel c)
  := by
  rw [visits, process, if_pos h, if_pos h]
  exact ⟨rfl, rfl⟩

/-- A run that is not cancelled ends with the fault of a deployment. -/
theorem step_of_fault
    (setup : Setup σ) {environment : String} {c : Config} (rest : List (String × Config))
    {fault : Fault} (hcancel : setup.cancelled p.processed = false)
    (h : (setup.visit p environment c).deployed.result = .error fault) :
  setup.visits ((environment, c) :: rest) p = [setup.visit p environment c]
    ∧ setup.process ((environment, c) :: rest) p = .error fault
  := by
  rw [visits, process_cons, hcancel]
  simp only [Bool.false_eq_true, if_false, h, Visit.outcome?, Except.toOption, and_self]

/-- A run that is not cancelled stops at a failure if it is not to continue. -/
theorem step_of_stops
    (setup : Setup σ) {environment : String} {c : Config} (rest : List (String × Config))
    {o : Outcome} (hcancel : setup.cancelled p.processed = false)
    (ho : (setup.visit p environment c).outcome? = some o)
    (hstops : setup.Stops (setup.visit p environment c)) :
  setup.visits ((environment, c) :: rest) p = [setup.visit p environment c]
    ∧ setup.process ((environment, c) :: rest) p
      = .ok ((p.follow setup.options (setup.visit p environment c)).abort setup.options c)
  := by
  have hstep := setup.step_cons p environment c rest
  generalize setup.visits ((environment, c) :: rest) p = visits at hstep ⊢
  generalize setup.process ((environment, c) :: rest) p = result at hstep ⊢
  cases hstep with
  | cancelled cancelled => simp [hcancel] at cancelled
  | ended hnone => simp [ho] at hnone
  | stopped => exact ⟨rfl, rfl⟩
  | next _ hgoes => exact absurd hstops hgoes

/-- A run that is not cancelled goes on after any other outcome. -/
theorem step_of_goes_on
    (setup : Setup σ) {environment : String} {c : Config} (rest : List (String × Config))
    {o : Outcome} (hcancel : setup.cancelled p.processed = false)
    (ho : (setup.visit p environment c).outcome? = some o)
    (hgoes : ¬ setup.Stops (setup.visit p environment c)) :
  setup.visits ((environment, c) :: rest) p
      = setup.visit p environment c
        :: setup.visits rest (p.follow setup.options (setup.visit p environment c))
    ∧ setup.process ((environment, c) :: rest) p
      = setup.process rest (p.follow setup.options (setup.visit p environment c))
  := by
  have hstep := setup.step_cons p environment c rest
  generalize setup.visits ((environment, c) :: rest) p = visits at hstep ⊢
  generalize setup.process ((environment, c) :: rest) p = result at hstep ⊢
  cases hstep with
  | cancelled cancelled => simp [hcancel] at cancelled
  | ended hnone => simp [ho] at hnone
  | stopped _ hstops => exact absurd hstops hgoes
  | next => exact ⟨rfl, rfl⟩

/-- After its first visits a run goes on from the progress that these lead to. -/
theorem visits_append
    {before after : List (Visit σ)} (h : setup.visits items p = before ++ after) :
  ∃ rest, items = before.map Visit.item ++ rest
    ∧ (after = [] ∨ (∀ v ∈ before, ∃ o, v.outcome? = some o)
        ∧ after = setup.visits rest (setup.after p before))
  := by
  induction before generalizing items p with
  | nil =>
    use items, rfl
    right
    exact ⟨by simp, h.symm⟩
  | cons v before ih =>
    cases items with
    | nil => cases h
    | cons item rest =>
      obtain ⟨environment, c⟩ := item
      have hstep := setup.step_cons p environment c rest
      rw [h] at hstep
      generalize setup.process ((environment, c) :: rest) p = result at hstep
      generalize hvisits : v :: before ++ after = visits at hstep
      cases hstep with
      | cancelled => cases hvisits
      | ended | stopped =>
        obtain ⟨rfl, hnil⟩ := List.cons.inj hvisits
        obtain ⟨rfl, rfl⟩ := List.append_eq_nil_iff.mp hnil
        exact ⟨rest, rfl, .inl rfl⟩
      | next ho =>
        obtain ⟨rfl, htail⟩ := List.cons.inj hvisits
        obtain ⟨rest', rfl, hafter⟩ := ih htail.symm
        use rest', rfl
        rcases hafter with hnil | ⟨hbefore, hafter⟩
        · left
          apply hnil
        · right
          exact ⟨List.forall_mem_cons.mpr ⟨⟨_, ho⟩, hbefore⟩, hafter⟩

/-- Every visit is the deployment of the next config after the visits before it. -/
theorem visits_split
    {before after : List (Visit σ)} {v : Visit σ}
    (h : setup.visits items p = before ++ v :: after) :
  v = setup.visit (setup.after p before) v.environment v.config
    ∧ (∀ u ∈ before, ∃ o, u.outcome? = some o)
    ∧ ∃ rest, items = before.map Visit.item ++ v.item :: rest
  := by
  obtain ⟨rest, hitems, hnil | ⟨hbefore, hafter⟩⟩ := visits_append h
  · cases hnil
  · cases rest with
    | nil => cases hafter
    | cons item rest =>
      obtain ⟨environment, c⟩ := item
      have hv : v = setup.visit (setup.after p before) environment c := by
        have hstep := setup.step_cons (setup.after p before) environment c rest
        rw [← hafter] at hstep
        generalize setup.process ((environment, c) :: rest) (setup.after p before) = result
          at hstep
        cases hstep with
        | ended | stopped | next => rfl
      cases hv
      exact ⟨rfl, hbefore, rest, hitems⟩

/-- How a run over some configs ends after its visits, and with which progress. -/
inductive Ending (setup : Setup σ) (items : List (String × Config)) (p : Progress σ)
    (visits : List (Visit σ)) : Progress σ → Prop where
  /-- All configs have been visited. -/
  | complete (items_eq : items = visits.map Visit.item)
      (goes_on : ∀ v ∈ visits, ¬ setup.Stops v) :
      Ending setup items p visits (setup.after p visits)
  /-- The run is found cancelled in front of a config. -/
  | cancelled {item : String × Config} {rest : List (String × Config)}
      (items_eq : items = visits.map Visit.item ++ item :: rest)
      (goes_on : ∀ v ∈ visits, ¬ setup.Stops v)
      (cancelled : setup.cancelled (p.processed + visits.length) = true) :
      Ending setup items p visits ((setup.after p visits).cancel item.2)
  /-- The run stops at a failure. -/
  | stopped {before : List (Visit σ)} {v : Visit σ} {rest : List (String × Config)}
      (visits_eq : visits = before ++ [v])
      (items_eq : items = visits.map Visit.item ++ rest)
      (goes_on : ∀ u ∈ before, ¬ setup.Stops u) (stops : setup.Stops v) :
      Ending setup items p visits ((setup.after p visits).abort setup.options v.config)

/-- A run that goes on after its first visit ends as the rest of it does. -/
theorem Ending.cons
    {visits : List (Visit σ)} {v : Visit σ} {o : Outcome} (ho : v.outcome? = some o)
    (hgoes : ¬ setup.Stops v)
    (h : setup.Ending items (p.follow setup.options v) visits p') :
  setup.Ending (v.item :: items) p (v :: visits) p'
  := by
  cases h with
  | complete items_eq goes_on =>
    apply Ending.complete
    · rw [items_eq, List.map_cons]
    · exact List.forall_mem_cons.mpr ⟨hgoes, goes_on⟩
  | cancelled items_eq goes_on cancelled =>
    apply Ending.cancelled
    · rw [items_eq, List.map_cons, List.cons_append]
    · exact List.forall_mem_cons.mpr ⟨hgoes, goes_on⟩
    · rw [Progress.processed_follow _ _ ho] at cancelled
      rw [List.length_cons, Nat.add_comm visits.length, ← Nat.add_assoc]
      apply cancelled
  | stopped visits_eq items_eq goes_on stops =>
    apply Ending.stopped
    · rw [visits_eq, ← List.cons_append]
    · rw [items_eq, List.map_cons, List.cons_append]
    · exact List.forall_mem_cons.mpr ⟨hgoes, goes_on⟩
    · apply stops

/-- A run ends well if and only if each of its visits has an outcome. -/
theorem process_isOk_iff :
  (∃ p', setup.process items p = .ok p') ↔ ∀ v ∈ setup.visits items p, ∃ o, v.outcome? = some o
  := by
  induction items generalizing p with
  | nil => simp [process, visits]
  | cons item rest ih =>
    obtain ⟨environment, c⟩ := item
    have hstep := setup.step_cons p environment c rest
    generalize setup.visits ((environment, c) :: rest) p = visits at hstep ⊢
    generalize setup.process ((environment, c) :: rest) p = result at hstep ⊢
    cases hstep with
    | cancelled => simp
    | ended ho => simp [ho]
    | stopped ho => simp [ho]
    | next ho => simp [ho, ih]

/-- A run that ends well ends after its visits. -/
theorem ending_of_process
    (h : setup.process items p = .ok p') :
  setup.Ending items p (setup.visits items p) p'
  := by
  induction items generalizing p with
  | nil =>
    cases h
    rw [visits]
    apply Ending.complete
    · rfl
    · simp
  | cons item rest ih =>
    obtain ⟨environment, c⟩ := item
    have hstep := setup.step_cons p environment c rest
    rw [h] at hstep
    generalize setup.visits ((environment, c) :: rest) p = visits at hstep ⊢
    generalize hresult : (Except.ok p' : Except Fault (Progress σ)) = result at hstep
    cases hstep with
    | ended => cases hresult
    | cancelled hcancelled =>
      cases hresult
      exact @Ending.cancelled σ setup _ p [] (environment, c) rest rfl (by simp) hcancelled
    | stopped ho hstops =>
      cases hresult
      exact @Ending.stopped σ setup _ p [_] [] (setup.visit p environment c) rest rfl rfl (by simp)
        hstops
    | next ho hgoes =>
      apply Ending.cons ho hgoes
      apply ih hresult.symm

/-- Visits neither cancel nor abort a run. -/
theorem flags_after
    (setup : Setup σ) (p : Progress σ) (visits : List (Visit σ)) :
  (setup.after p visits).report.cancelled = p.report.cancelled
    ∧ (setup.after p visits).report.aborted = p.report.aborted
  := by
  induction visits generalizing p with
  | nil => exact ⟨rfl, rfl⟩
  | cons v visits ih =>
    obtain ⟨hcancelled, haborted⟩ := ih (p.follow setup.options v)
    rw [after, List.foldl_cons, ← after, hcancelled, haborted, Progress.follow]
    split
    · exact ⟨rfl, rfl⟩
    · exact ⟨rfl, rfl⟩

/-- The state of the clients is what the visits made of it. -/
theorem client_after
    (setup : Setup σ) (p : Progress σ) {visits : List (Visit σ)}
    (h : ∀ v ∈ visits, ∃ o, v.outcome? = some o) :
  (setup.after p visits).session.client = Visit.clientAfter p.session.client visits
  := by
  rcases List.eq_nil_or_concat visits with rfl | ⟨visits, v, rfl⟩
  · rfl
  · rw [List.concat_eq_append] at h ⊢
    obtain ⟨o, ho⟩ := h v (by simp)
    rw [after_concat, Progress.follow_of_outcome _ _ ho, Visit.clientAfter,
      List.getLast?_concat]
    rfl

/-- What every deployment preserves of a session, and every line that is logged, holds after
any visits. -/
theorem session_after
    {I : Session σ → Prop} (htell : ∀ s log, I s → I (s.tell log))
    (hdeploy : ∀ environment c b s, I s → I (setup.deploy environment c b s).session)
    {history rest : List (Visit σ)} (h : setup.visits items p = history ++ rest)
    (hp : I p.session) :
  I (setup.after p history).session
  := by
  induction history using List.reverseRecOn generalizing rest with
  | nil => apply hp
  | append_singleton history v ih =>
    rw [List.append_assoc, List.singleton_append] at h
    have hhistory := ih h
    obtain ⟨hv, -⟩ := visits_split h
    rw [after_concat, Progress.follow]
    split
    · apply hhistory
    · apply htell
      rw [hv]
      apply hdeploy
      apply htell _ _ hhistory

end Setup

/-! ### What the report tells -/

namespace Report

@[simp]
theorem environment_set
    (r : Report) (name environment : String) (e : EnvironmentReport) :
  (r.set name e).environment environment
    = if name = environment then e else r.environment environment
  := by
  simp only [Report.environment, set, Table.find?_insert]
  split <;> rfl

@[simp]
theorem environment_enter
    (r : Report) (name environment : String) :
  (r.enter name).environment environment = r.environment environment
  := by
  rw [enter, environment_set]
  split
  · rename_i h
    rw [h]
  · rfl

end Report

/-- A visit enters its environment into the report and adds its outcome there. -/
theorem Progress.find?_follow
    (options : Options) (p : Progress σ) {v : Visit σ} {o : Outcome} (h : v.outcome? = some o)
    (environment : String) :
  (p.follow options v).report.environments.find? environment
    = if v.environment = environment
      then some ((p.report.environment environment).add o v.deployed.books)
      else p.report.environments.find? environment
  := by
  rw [follow_of_outcome options p h]
  simp only [add, enter, Report.environment_enter]
  rw [Report.set, Table.find?_insert, Report.enter, Report.set, Table.find?_insert]
  split
  · rename_i h
    rw [h]
  · rfl

/-- A visit adds its outcome to the report of its environment. -/
theorem Progress.environment_follow
    (options : Options) (p : Progress σ) {v : Visit σ} {o : Outcome} (h : v.outcome? = some o)
    (environment : String) :
  (p.follow options v).report.environment environment
    = if v.environment = environment
      then (p.report.environment environment).add o v.deployed.books
      else p.report.environment environment
  := by
  rw [Report.environment, find?_follow options p h]
  split
  · rfl
  · rfl

namespace Setup

/-- A visit is the deployment of its config from what it meets. -/
theorem deployed_visit
    (setup : Setup σ) (p : Progress σ) (environment : String) (c : Config) :
  (setup.visit p environment c).deployed
    = setup.deploy (setup.visit p environment c).environment (setup.visit p environment c).config
      (setup.visit p environment c).books (setup.visit p environment c).session
  := rfl

/-- A visit meets the books of its environment. -/
theorem books_visit
    (setup : Setup σ) (p : Progress σ) (environment : String) (c : Config) :
  (setup.visit p environment c).books = (p.report.environment environment).books
  := by
  simp [visit, Progress.enter]

/-- The report tells of the outcomes of the visits in each environment, and of their
errors. -/
theorem environment_after
    (setup : Setup σ) (p : Progress σ) (visits : List (Visit σ)) (environment : String) :
  ((setup.after p visits).report.environment environment).outcomes
      = (p.report.environment environment).outcomes ++ Visit.outcomes environment visits
    ∧ ((setup.after p visits).report.environment environment).errors
      = (p.report.environment environment).errors
        ++ (Visit.outcomes environment visits).flatMap Outcome.errors
  := by
  induction visits using List.reverseRecOn with
  | nil => simp [after, Visit.outcomes]
  | append_singleton visits v ih =>
    have houtcomes : Visit.outcomes environment (visits ++ [v])
        = Visit.outcomes environment visits ++ Visit.outcomes environment [v] := by
      rw [Visit.outcomes, List.filter_append, List.filterMap_append]
      rfl
    rw [after_concat, houtcomes, List.flatMap_append, ← List.append_assoc, ← List.append_assoc,
      ← ih.1, ← ih.2]
    cases ho : v.outcome? with
    | none =>
      have hnil : Visit.outcomes environment [v] = [] := by
        rw [Visit.outcomes, List.filterMap_eq_nil_iff]
        simp_all
      rw [Progress.follow, ho, hnil]
      simp
    | some o =>
      rw [Progress.environment_follow _ _ ho]
      split
      · rename_i h
        simp [Visit.outcomes, EnvironmentReport.add, ho, h]
      · rename_i h
        simp [Visit.outcomes, h]

end Setup

/-! ### Runs of two or three visits -/

namespace Visit

variable {α : Type} {f : Visit σ → α} {visits : List (Visit σ)} {a b c : α}

/-- Two visits are told apart by what is known of each. -/
theorem pair_of_map
    (h : visits.map f = [a, b]) :
  ∃ u v, visits = [u, v] ∧ f u = a ∧ f v = b
  := by
  obtain ⟨u, rest, rfl, hu, hrest⟩ := List.map_eq_cons_iff.mp h
  obtain ⟨v, rfl, hv⟩ := List.map_eq_singleton_iff.mp hrest
  exact ⟨u, v, rfl, hu, hv⟩

theorem triple_of_map
    (h : visits.map f = [a, b, c]) :
  ∃ u v w, visits = [u, v, w] ∧ f u = a ∧ f v = b ∧ f w = c
  := by
  obtain ⟨u, rest, rfl, hu, hrest⟩ := List.map_eq_cons_iff.mp h
  obtain ⟨v, w, rfl, hv, hw⟩ := pair_of_map hrest
  exact ⟨u, v, w, rfl, hu, hv, hw⟩

end Visit

end Rollout
