import Rollout.Proofs.Run.Completion

/-!
# Entries that are replaced

An entity that has been entered into a registry stays there until another config at the same
coordinate is deployed or left out in the same environment, and then its entry is replaced.
In an environment whose configs stand at different coordinates no entry is ever replaced.
-/

namespace Rollout

variable {σ : Type}

namespace Visit

variable {environment : String} {t : Coordinate}

/-- Of two histories in a row the second one has the last word. -/
theorem latest?_append
    (history later : List (Visit σ)) :
  latest? environment t (history ++ later)
    = (latest? environment t later).or (latest? environment t history)
  := by
  rw [latest?, List.reverse_append, List.findSome?_append, latest?, latest?]

/-- A visit that leaves something behind has the last word until another one at the same
coordinate does. -/
theorem latest?_append_cons
    {v : Visit σ} {e : Entity} (he : v.entity? = some e) (history later : List (Visit σ)) :
  latest? v.environment v.config.coordinate (history ++ v :: later)
    = some ((latest? v.environment v.config.coordinate later).getD e)
  := by
  have hleft : v.leftAt? v.environment v.config.coordinate = some e := by
    rw [leftAt?, if_pos ⟨rfl, rfl⟩, he]
  rw [List.append_cons, latest?_append, latest?_concat, hleft, Option.some_or]
  cases latest? v.environment v.config.coordinate later <;> rfl

theorem latest?_eq_none_of_not_isAt
    {history : List (Visit σ)} (h : ∀ v ∈ history, ¬ v.IsAt environment t) :
  latest? environment t history = none
  := by
  apply List.findSome?_eq_none_iff.mpr
  intro v hv
  rw [leftAt?, if_neg (h v (List.mem_reverse.mp hv))]

end Visit

namespace Job

variable {job : Job} {setup : Setup σ} {s s' : Session σ} {report : Report}
  {before between after : List (Visit σ)} {v : Visit σ}

/-- The report holds what the latest visits left behind. -/
theorem registry_run
    (h : job.run setup s = .ok (report, s')) (environment : String) (t : Coordinate) :
  (report.environment environment).books.registry.find? t
    = Visit.latest? environment t (job.visits setup s)
  := by
  rw [books_run h]
  apply registry_booksAfter (job.visits setup s).append_nil.symm

/-- The configs that come up in an environment stand at different coordinates. -/
def HasDistinctCoordinates (job : Job) (environment : String) : Prop :=
  ((job.items.filter (fun item => item.1 = environment)).map
    (fun item => item.2.coordinate)).Nodup

/-- Where the coordinates are different, no later visit comes to the same one. -/
theorem HasDistinctCoordinates.not_isAt
    (hdistinct : job.HasDistinctCoordinates v.environment)
    (h : job.visits setup s = before ++ v :: (between ++ after)) :
  ∀ w ∈ between, ¬ w.IsAt v.environment v.config.coordinate
  := by
  rintro w hw ⟨henvironment, hcoordinate⟩
  rw [← List.cons_append, ← List.append_assoc] at h
  obtain ⟨rest, hitems, -⟩ := Setup.visits_append h
  rw [HasDistinctCoordinates, hitems] at hdistinct
  simp only [List.map_append, List.map_cons, List.filter_append] at hdistinct
  have htail := (List.nodup_append.mp (List.nodup_append.mp hdistinct).1).2.1
  rw [Visit.item, List.filter_cons_of_pos (by simp), List.map_cons, List.nodup_cons] at htail
  apply htail.1
  apply List.mem_map.mpr
  use w.item
  constructor
  · apply List.mem_filter.mpr
    exact ⟨List.mem_map_of_mem hw, decide_eq_true henvironment⟩
  · apply hcoordinate

/-- What is found under the coordinate of a visit afterwards, depending on the visits in
between: by the later visits of its environment, and at last in the report. -/
structure Finds (job : Job) (setup : Setup σ) (s : Session σ) (v : Visit σ)
    (after : List (Visit σ)) (entry : List (Visit σ) → Entity) : Prop where
  visit : ∀ between u rest, after = between ++ u :: rest → u.environment = v.environment →
    u.books.registry.find? v.config.coordinate = some (entry between)
  report : ∀ report s', job.run setup s = .ok (report, s') →
    (report.environment v.environment).books.registry.find? v.config.coordinate
      = some (entry after)

/-- An entity that a visit has entered is found under its coordinate until a later visit at
this coordinate leaves another one, which is found in its place.  So it is found for good if
the configs of the environment stand at different coordinates. -/
theorem registry_kept_unless_repeated
    (h : job.visits setup s = before ++ v :: after) {e : Entity} (he : v.entity? = some e) :
  job.Finds setup s v after
      (fun later => (Visit.latest? v.environment v.config.coordinate later).getD e)
    ∧ (job.HasDistinctCoordinates v.environment → job.Finds setup s v after (fun _ => e))
  := by
  have hfinds : job.Finds setup s v after
      (fun later => (Visit.latest? v.environment v.config.coordinate later).getD e) := by
    constructor
    · intro between u rest hafter henvironment
      have hsplit : job.visits setup s = (before ++ v :: between) ++ u :: rest := by
        rw [h, hafter, List.append_assoc, List.cons_append]
      rw [registry_visit hsplit, henvironment]
      apply Visit.latest?_append_cons he
    · intro report s' hrun
      rw [registry_run hrun, h]
      apply Visit.latest?_append_cons he
  use hfinds
  intro hdistinct
  constructor
  · intro between u rest hafter henvironment
    have hnone : Visit.latest? v.environment v.config.coordinate between = none := by
      apply Visit.latest?_eq_none_of_not_isAt
      apply hdistinct.not_isAt
      rw [h, hafter]
    rw [hfinds.visit between u rest hafter henvironment, hnone, Option.getD_none]
  · intro report s' hrun
    have hsplit : job.visits setup s = before ++ v :: (after ++ []) := by
      rw [h, List.append_nil]
    have hnone : Visit.latest? v.environment v.config.coordinate after = none := by
      apply Visit.latest?_eq_none_of_not_isAt
      apply hdistinct.not_isAt hsplit
    rw [hfinds.report report s' hrun, hnone, Option.getD_none]

end Job

/-- The dashboard that shows another one finds the entity that this one has entered. -/
theorem registry_kept_unless_repeated_overview :
  ∃ v u e, (Job.inOrder [Sample.board, Sample.overview]).visits Sample.setup Sample.session = [v, u]
    ∧ v.entity? = some e ∧ e.name = "Board"
    ∧ u.books.registry.find? Sample.board.coordinate = some e
  := by
  have hvisits : ((Job.inOrder [Sample.board, Sample.overview]).visits Sample.setup
      Sample.session).map (fun v => (v.environment, v.config.coordinate,
        v.entity?.map Entity.name))
      = [("test", Sample.board.coordinate, some "Board"),
        ("test", Sample.overview.coordinate, some "Overview")] := by
    decide +kernel
  obtain ⟨v, u, hsplit, hv, hu⟩ := Visit.pair_of_map hvisits
  obtain ⟨henvironment, hcoordinate, hentity⟩ := by simpa using hv
  obtain ⟨henvironment', -, -⟩ := by simpa using hu
  obtain ⟨e, he, hname⟩ := hentity
  have hdistinct : (Job.inOrder [Sample.board, Sample.overview]).HasDistinctCoordinates
      v.environment := by
    rw [henvironment, Job.HasDistinctCoordinates]
    decide
  have hbegin : (Job.inOrder [Sample.board, Sample.overview]).visits Sample.setup Sample.session
      = [] ++ v :: [u] := hsplit
  have hfinds := (Job.registry_kept_unless_repeated hbegin he).2 hdistinct
  use v, u, e, hsplit, he, hname
  rw [← hcoordinate]
  apply hfinds.visit [] u [] rfl
  rw [henvironment, henvironment']

namespace Sample

/-- Another dashboard at the coordinate of the first one. -/
def wall : Config :=
  { board with parameters := .ofList [(nameParameter, .value (.text "Wall"))] }

end Sample

/-- If two dashboards stand at one coordinate, the entity that the first one has entered is
not in the report. -/
theorem registry_replaced_wall :
  ∃ report s' v w, (Job.inOrder [Sample.board, Sample.wall]).run Sample.setup Sample.session
      = .ok (report, s')
    ∧ (Job.inOrder [Sample.board, Sample.wall]).visits Sample.setup Sample.session = [v, w]
    ∧ v.entity?.map Entity.name = some "Board"
    ∧ ((report.environment "test").books.registry.find? Sample.board.coordinate).map Entity.name
      = some "Wall"
  := by
  have hvisits : ((Job.inOrder [Sample.board, Sample.wall]).visits Sample.setup
      Sample.session).map (fun v => v.entity?.map Entity.name)
      = [some "Board", some "Wall"] := by
    decide +kernel
  have hreport : ((Job.inOrder [Sample.board, Sample.wall]).run Sample.setup
      Sample.session).toOption.map (fun result =>
        ((result.1.environment "test").books.registry.find? Sample.board.coordinate).map
          Entity.name) = some (some "Wall") := by
    decide +kernel
  obtain ⟨⟨report, s'⟩, hrun, hentry⟩ := exists_eq_ok hreport
  obtain ⟨v, w, hsplit, hv, -⟩ := Visit.pair_of_map hvisits
  exact ⟨report, s', v, w, hrun, hsplit, hv, hentry⟩

end Rollout
