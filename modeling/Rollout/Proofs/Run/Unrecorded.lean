import Rollout.Proofs.Deploy.Unrecorded
import Rollout.Proofs.Run.Isolation
import Rollout.Proofs.Run.Totality

/-!
# Runs with and without a recorder

A run with a recorder goes where the run without one goes: visit by visit it meets the same
books and the same clients, and leads to the same outcomes and calls.  There is one exception.
A run ends without a report if the folder of its recorder, or a file for which a folder can be
had, would have a path that none can have.
-/

namespace Rollout

variable {σ : Type}

/-- The session without its recorder. -/
def Session.unrecorded (s : Session σ) : Session σ :=
  { s with recorder := none }

theorem Session.isUnrecorded_unrecorded
    (s : Session σ) :
  s.unrecorded.IsUnrecorded
  := by
  rintro r ⟨⟩

/-- The stubs cannot be written out: their folder has no path, or it can be had and the file
for a type has no path in it. -/
def Session.BarsStubs (s : Session σ) : Prop :=
  ∃ folder, s.folder? = some folder
    ∧ (folder.hasNul = true ∨ s.disk.Offers folder ∧ ∃ type ∈ s.types, HoldsNul type)

/-! ### One visit -/

namespace Setup

variable {setup : Setup σ} {environment : String} {c : Config} {b : Books} {s t : Session σ}
  {o : Outcome}

/-- A deployed config cannot be recorded in a run. -/
def Bars (setup : Setup σ) (s : Session σ) (o : Outcome) : Prop :=
  setup.options.dryRun = false ∧ s.Bars o

/-- A config is deployed as it is without a recorder, unless it is barred. -/
theorem deploy_agreesUnless
    (setup : Setup σ) (hclient : s.client = t.client) (ht : t.IsUnrecorded)
    (environment : String) (c : Config) (b : Books) :
  (setup.deploy environment c b s).AgreesUnless (setup.Bars s) (setup.deploy environment c b t)
  := by
  rw [deploy, deploy]
  split
  · rename_i hdry
    have hagrees := c.deploy_agreesUnless hclient ht setup.conditions .validate environment b
    have hnone : ∀ o, ¬ setup.Bars s o := by
      rintro o ⟨hreal, -⟩
      rw [hdry] at hreal
      cases hreal
    apply Deployed.AgreesUnless.of_not_barred hagrees.books hagrees.client
    · apply hagrees.result
      rintro o - ⟨hmode, -⟩
      exact hmode rfl
    · intro o _
      apply hnone
  · rename_i hreal
    rw [Bool.not_eq_true] at hreal
    split
    · refine .of_not_barred rfl hclient rfl ?_
      rintro o ⟨⟩ ⟨-, hbars⟩
      exact Session.not_bars rfl hbars
    · rename_i client _
      have hagrees := c.deploy_agreesUnless hclient ht setup.conditions (.push client)
        environment b
      constructor
      · apply hagrees.books
      · apply hagrees.client
      · intro hnot
        apply hagrees.result
        rintro o ho ⟨-, hbars⟩
        exact hnot o ho ⟨hreal, hbars⟩
      · rintro o ho ⟨-, hbars⟩
        refine hagrees.ended o ho ⟨?_, hbars⟩
        rintro ⟨⟩

/-- A deployment that has an outcome records nothing but what has been deployed. -/
theorem mem_types_deploy
    (h : (setup.deploy environment c b s).result = .ok o) {type : String}
    (htype : type ∈ (setup.deploy environment c b s).session.types) :
  type ∈ s.types
    ∨ setup.options.dryRun = false ∧ (∃ id, o.remoteId? = some id) ∧ o.coordinate.type = type
  := by
  rw [deploy] at h htype
  split at h
  · rename_i hdry
    rw [if_pos hdry] at htype
    have hcourse := c.course_deploy setup.conditions .validate environment b s
    apply (hcourse.mem_types h htype).imp_right
    rintro ⟨hmode, -⟩
    exact absurd rfl hmode
  · rename_i hreal
    rw [if_neg hreal] at htype
    rw [Bool.not_eq_true] at hreal
    split at h
    · rename_i hclient
      rw [hclient] at htype
      exact .inl htype
    · rename_i client hclient
      rw [hclient] at htype
      have hcourse := c.course_deploy setup.conditions (.push client) environment b s
      apply (hcourse.mem_types h htype).imp_right
      rintro ⟨-, hdeployed⟩
      exact ⟨hreal, hdeployed⟩

end Setup

/-- Visits that meet the same books and clients lead to the same with and without a recorder,
with the same calls, unless the config is barred. -/
theorem Visit.agreesUnless
    {setup : Setup σ} {v w : Visit σ}
    (hv : v.deployed = setup.deploy v.environment v.config v.books v.session)
    (hw : w.deployed = setup.deploy w.environment w.config w.books w.session)
    (hitem : v.item = w.item) (hbooks : v.books = w.books)
    (hclient : v.session.client = w.session.client) (hunrecorded : w.session.IsUnrecorded) :
  v.deployed.AgreesUnless (setup.Bars v.session) w.deployed ∧ v.calls setup = w.calls setup
  := by
  obtain ⟨henvironment, hconfig⟩ := Prod.mk.inj hitem
  constructor
  · rw [hv, hw, henvironment, hconfig, hbooks]
    apply setup.deploy_agreesUnless hclient hunrecorded
  · have hwatched : v.session.watched.client = w.session.watched.client :=
      congrArg (fun client => (client, [])) hclient
    have hagrees := setup.watched.deploy_agreesUnless hwatched hunrecorded w.environment w.config
      w.books
    rw [Visit.calls, Visit.calls, Visit.watched, Visit.watched, henvironment, hconfig, hbooks]
    apply congrArg Prod.snd hagrees.client

/-- Two visits of a config meet the same and lead to the same, as far as a report and a client
can tell. -/
structure Visit.Agrees (setup : Setup σ) (v w : Visit σ) : Prop where
  item : v.item = w.item
  books : v.books = w.books
  client : v.session.client = w.session.client
  result : v.deployed.result = w.deployed.result
  books_after : v.deployed.books = w.deployed.books
  client_after : v.deployed.session.client = w.deployed.session.client
  calls : v.calls setup = w.calls setup

/-! ### The progress of two runs -/

/-- A run has come as far as another one that records nothing, from a session with a recorder.
As long as its folder can be had, only types that were known to it hold the character that no
path may hold. -/
structure Progress.Shadows (s : Session σ) (p q : Progress σ) : Prop where
  report : p.report = q.report
  processed : p.processed = q.processed
  client : p.session.client = q.session.client
  unrecorded : q.session.IsUnrecorded
  records : s.RecordsWithin p.session
  types : ∀ folder, s.folder? = some folder → s.disk.Offers folder →
    ∀ type ∈ p.session.types, HoldsNul type → type ∈ s.types

namespace Progress.Shadows

variable {setup : Setup σ} {s : Session σ} {p q : Progress σ} {environment : String} {c : Config}
  {o : Outcome}

/-- If the next config is barred, then its visit ends the run. -/
theorem visit_barred
    (h : p.Shadows s q) (ho : (setup.visit q environment c).outcome? = some o)
    (hbars : setup.Bars s o) :
  (setup.visit p environment c).deployed.result = .error .nulInPath
  := by
  have hbooks : (setup.visit p environment c).books = (setup.visit q environment c).books := by
    rw [Setup.books_visit, Setup.books_visit, h.report]
  obtain ⟨hagrees, -⟩ := Visit.agreesUnless (setup.deployed_visit p environment c)
    (setup.deployed_visit q environment c) rfl hbooks h.client h.unrecorded
  apply hagrees.ended o (Visit.outcome?_eq_some_iff.mp ho)
  exact ⟨hbars.1, h.records.bars_iff.mp hbars.2⟩

/-- If the next config is not barred, then its visits lead to the same. -/
theorem visit
    (h : p.Shadows s q)
    (hnot : ∀ o, (setup.visit q environment c).outcome? = some o → ¬ setup.Bars s o) :
  (setup.visit p environment c).Agrees setup (setup.visit q environment c)
  := by
  have hbooks : (setup.visit p environment c).books = (setup.visit q environment c).books := by
    rw [Setup.books_visit, Setup.books_visit, h.report]
  obtain ⟨hagrees, hcalls⟩ := Visit.agreesUnless (setup.deployed_visit p environment c)
    (setup.deployed_visit q environment c) rfl hbooks h.client h.unrecorded
  constructor
  · rfl
  · apply hbooks
  · apply h.client
  · apply hagrees.result
    rintro o ho ⟨hreal, hbars⟩
    exact hnot o (Visit.outcome?_eq_some_iff.mpr ho) ⟨hreal, h.records.bars_iff.mpr hbars⟩
  · apply hagrees.books
  · apply hagrees.client
  · apply hcalls

/-- After visits that lead to the same two runs have come equally far. -/
theorem follow
    (h : p.Shadows s q)
    (hagrees : (setup.visit p environment c).Agrees setup (setup.visit q environment c))
    (ho : (setup.visit q environment c).outcome? = some o) (hnot : ¬ setup.Bars s o) :
  (p.follow setup.options (setup.visit p environment c)).Shadows s
    (q.follow setup.options (setup.visit q environment c))
  := by
  have ho' : (setup.visit p environment c).outcome? = some o := by
    rw [Visit.outcome?, hagrees.result]
    apply ho
  have hentered : s.RecordsWithin (setup.visit p environment c).session :=
    h.records.trans (.of_eq rfl rfl)
  have hrecords := hentered.trans (setup.recordsWithin_deploy environment c
    (setup.visit p environment c).books (setup.visit p environment c).session)
  rw [follow_of_outcome _ _ ho, follow_of_outcome _ _ ho']
  constructor
  · simp only [add, enter, hagrees.books_after]
    rw [h.report]
    rfl
  · apply congrArg (· + 1) h.processed
  · apply hagrees.client_after
  · apply Setup.isUnrecorded_deploy
    apply h.unrecorded
  · exact hrecords.trans (.of_eq rfl rfl)
  · intro folder hfolder hoffers type htype hnul
    rcases Setup.mem_types_deploy (Visit.outcome?_eq_some_iff.mp ho') htype
      with htype | ⟨hreal, ⟨id, hid⟩, rfl⟩
    · apply h.types folder hfolder hoffers type htype hnul
    · exact absurd ⟨hreal, folder, id, hfolder, hid, .inr ⟨hoffers, .inl hnul⟩⟩ hnot

/-- Two runs that are found cancelled are so alike. -/
theorem cancel
    (h : p.Shadows s q) (c : Config) :
  (p.cancel c).Shadows s (q.cancel c)
  := by
  constructor
  · rw [Progress.cancel, Progress.cancel, h.report]
  · apply h.processed
  · apply h.client
  · apply h.unrecorded
  · exact h.records.trans (.of_eq rfl rfl)
  · apply h.types

/-- Two runs that stop at a failure stop alike. -/
theorem abort
    (h : p.Shadows s q) (options : Options) (c : Config) :
  (p.abort options c).Shadows s (q.abort options c)
  := by
  constructor
  · rw [Progress.abort, Progress.abort, h.report]
  · apply h.processed
  · apply h.client
  · apply h.unrecorded
  · exact h.records.trans (.of_eq rfl rfl)
  · apply h.types

/-- On the way nothing has been recorded that cannot be written out. -/
theorem barsStubs_iff
    (h : p.Shadows s q) :
  p.session.BarsStubs ↔ s.BarsStubs
  := by
  rw [Session.BarsStubs, Session.BarsStubs, ← h.records.folder]
  apply exists_congr
  intro folder
  apply and_congr_right
  intro hfolder
  apply or_congr_right
  rw [h.records.offers folder (h.records.folder ▸ hfolder)]
  apply and_congr_right
  intro hoffers
  constructor
  · rintro ⟨type, htype, hnul⟩
    exact ⟨type, h.types folder hfolder
      ((h.records.offers folder (h.records.folder ▸ hfolder)).mpr hoffers) type htype hnul, hnul⟩
  · rintro ⟨type, htype, hnul⟩
    exact ⟨type, h.records.types htype, hnul⟩

end Progress.Shadows

/-! ### Whole runs -/

namespace Setup

variable {setup : Setup σ} {s : Session σ} {p q : Progress σ} {environment : String} {c : Config}

/-- Runs over configs that end alike: with one fault, or with one report. -/
inductive EndsLike (s : Session σ) :
    Except Fault (Progress σ) → Except Fault (Progress σ) → Prop where
  | fault (fault : Fault) : EndsLike s (.error fault) (.error fault)
  | shadows {p q : Progress σ} (shadows : p.Shadows s q) : EndsLike s (.ok p) (.ok q)

/-- Two runs that have come equally far do the same with a config that is not barred: both
end there alike, or both go on. -/
theorem step_shadows
    (h : p.Shadows s q) (hcancel : setup.cancelled q.processed = false)
    (hnot : ∀ o, (setup.visit q environment c).outcome? = some o → ¬ setup.Bars s o)
    (rest : List (String × Config)) :
  (setup.visits ((environment, c) :: rest) p = [setup.visit p environment c]
      ∧ setup.visits ((environment, c) :: rest) q = [setup.visit q environment c]
      ∧ EndsLike s (setup.process ((environment, c) :: rest) p)
        (setup.process ((environment, c) :: rest) q))
    ∨ ∃ p' q', p'.Shadows s q'
      ∧ setup.visits ((environment, c) :: rest) p
        = setup.visit p environment c :: setup.visits rest p'
      ∧ setup.visits ((environment, c) :: rest) q
        = setup.visit q environment c :: setup.visits rest q'
      ∧ setup.process ((environment, c) :: rest) p = setup.process rest p'
      ∧ setup.process ((environment, c) :: rest) q = setup.process rest q'
  := by
  have hagrees := h.visit hnot
  have hcancel' := hcancel
  rw [← h.processed] at hcancel'
  cases hresult : (setup.visit q environment c).deployed.result with
  | error fault =>
    left
    obtain ⟨hvisits, hprocess⟩ := setup.step_of_fault rest hcancel hresult
    rw [← hagrees.result] at hresult
    obtain ⟨hvisits', hprocess'⟩ := setup.step_of_fault rest hcancel' hresult
    rw [hprocess, hprocess']
    exact ⟨hvisits', hvisits, .fault fault⟩
  | ok o =>
    have ho := Visit.outcome?_eq_some_iff.mpr hresult
    have ho' : (setup.visit p environment c).outcome? = some o := by
      rw [Visit.outcome?, hagrees.result]
      apply ho
    have hfollow := h.follow hagrees ho (hnot o ho)
    have hstops : setup.Stops (setup.visit p environment c)
        ↔ setup.Stops (setup.visit q environment c) := by
      rw [Stops, Stops, Visit.state?, Visit.state?, ho, ho']
    by_cases hstop : setup.Stops (setup.visit q environment c)
    · left
      obtain ⟨hvisits, hprocess⟩ := setup.step_of_stops rest hcancel ho hstop
      obtain ⟨hvisits', hprocess'⟩ := setup.step_of_stops rest hcancel' ho' (hstops.mpr hstop)
      rw [hprocess, hprocess']
      exact ⟨hvisits', hvisits, .shadows (hfollow.abort setup.options c)⟩
    · right
      obtain ⟨hvisits, hprocess⟩ := setup.step_of_goes_on rest hcancel ho hstop
      obtain ⟨hvisits', hprocess'⟩ := setup.step_of_goes_on rest hcancel' ho' (mt hstops.mp hstop)
      exact ⟨_, _, hfollow, hvisits', hvisits, hprocess', hprocess⟩

/-- A run in which no deployed config is barred goes where the run without a recorder goes. -/
theorem process_shadows
    {items : List (String × Config)} (h : p.Shadows s q)
    (hnot : ∀ w ∈ setup.visits items q, ∀ o, w.outcome? = some o → ¬ setup.Bars s o) :
  List.Forall₂ (Visit.Agrees setup) (setup.visits items p) (setup.visits items q)
    ∧ EndsLike s (setup.process items p) (setup.process items q)
  := by
  induction items generalizing p q with
  | nil => exact ⟨.nil, .shadows h⟩
  | cons item rest ih =>
    obtain ⟨environment, c⟩ := item
    cases hcancel : setup.cancelled q.processed with
    | true =>
      obtain ⟨hvisits, hprocess⟩ := setup.step_of_cancelled rest hcancel
      rw [← h.processed] at hcancel
      obtain ⟨hvisits', hprocess'⟩ := setup.step_of_cancelled rest hcancel
      rw [hvisits, hvisits', hprocess, hprocess']
      exact ⟨.nil, .shadows (h.cancel c)⟩
    | false =>
      have hfirst := hnot _ (visit_mem_visits hcancel)
      have hagrees := h.visit hfirst
      rcases step_shadows h hcancel hfirst rest
        with ⟨hvisits', hvisits, hends⟩ | ⟨p', q', hnext, hvisits', hvisits, hprocess', hprocess⟩
      · rw [hvisits, hvisits']
        exact ⟨.cons hagrees .nil, hends⟩
      · rw [hvisits] at hnot
        obtain ⟨hrest, hends⟩ := ih hnext (fun w hw => hnot w (List.mem_cons_of_mem _ hw))
        rw [hvisits, hvisits', hprocess, hprocess']
        exact ⟨.cons hagrees hrest, hends⟩

/-- A run in which a deployed config is barred ends there. -/
theorem process_barred
    {items : List (String × Config)} (h : p.Shadows s q) {w : Visit σ}
    (hw : w ∈ setup.visits items q) {o : Outcome} (ho : w.outcome? = some o)
    (hbars : setup.Bars s o) :
  setup.process items p = .error .nulInPath
  := by
  induction items generalizing p q with
  | nil => cases hw
  | cons item rest ih =>
    obtain ⟨environment, c⟩ := item
    cases hcancel : setup.cancelled q.processed with
    | true =>
      rw [(setup.step_of_cancelled rest hcancel).1] at hw
      cases hw
    | false =>
      by_cases hfirst : ∃ o, (setup.visit q environment c).outcome? = some o ∧ setup.Bars s o
      · obtain ⟨o, ho, hbars⟩ := hfirst
        rw [← h.processed] at hcancel
        apply (setup.step_of_fault rest hcancel (h.visit_barred ho hbars)).2
      · have hother : w ≠ setup.visit q environment c := by
          rintro rfl
          exact hfirst ⟨o, ho, hbars⟩
        have hnot : ∀ o, (setup.visit q environment c).outcome? = some o → ¬ setup.Bars s o :=
          fun o ho hbars => hfirst ⟨o, ho, hbars⟩
        rcases step_shadows h hcancel hnot rest
          with ⟨-, hvisits, -⟩ | ⟨p', q', hnext, -, hvisits, hprocess, -⟩
        · rw [hvisits] at hw
          exact absurd (List.mem_singleton.mp hw) hother
        · rw [hvisits] at hw
          rw [hprocess]
          apply ih hnext ((List.mem_cons.mp hw).resolve_left hother)

/-- The stubs that cannot be written out end a run. -/
theorem writeStubs_eq_error
    {fault : Fault} (h : setup.writeStubs s = .error fault) :
  fault = .nulInPath
  := by
  rw [writeStubs] at h
  split at h
  · cases h
  · split at h
    · cases h
    · dsimp only at h
      split at h
      · cases h
        rfl
      · cases h

theorem writeStubs_eq_error_iff_bars :
  (∃ fault, setup.writeStubs s = .error fault) ↔ setup.options.dryRun = false ∧ s.BarsStubs
  := by
  rw [writeStubs_eq_error_iff, Session.BarsStubs]
  apply and_congr_right
  intro _
  apply exists_congr
  intro folder
  apply and_congr_right
  intro _
  apply or_congr_right
  apply and_congr_right
  intro hoffers
  simp only [Recorder.hasNul_typePath_iff hoffers.hasNul]

/-- Runs that have come equally far are finished with the same report and the same clients,
unless the stubs cannot be written out. -/
theorem finish_shadows
    (h : p.Shadows s q) :
  (¬ (setup.options.dryRun = false ∧ s.BarsStubs) →
      ∃ s' t', setup.finish p = .ok (p.report, s') ∧ setup.finish q = .ok (p.report, t')
        ∧ s'.client = t'.client)
    ∧ (setup.options.dryRun = false ∧ s.BarsStubs → setup.finish p = .error .nulInPath)
  := by
  have hstubs : (∃ fault, setup.writeStubs (p.session.tell (p.report.environments.values.map
      setup.options.finishedLine)) = .error fault)
      ↔ setup.options.dryRun = false ∧ s.BarsStubs := by
    rw [← h.barsStubs_iff]
    apply writeStubs_eq_error_iff_bars
  rw [← hstubs, finish]
  cases hwritten : setup.writeStubs (p.session.tell (p.report.environments.values.map
      setup.options.finishedLine)) with
  | error fault =>
    constructor
    · intro hnot
      exact absurd ⟨fault, rfl⟩ hnot
    · intro _
      rw [writeStubs_eq_error hwritten]
  | ok s' =>
    constructor
    · intro _
      obtain ⟨report, t', hq⟩ := @finish_isOk σ setup q h.unrecorded
      obtain ⟨rfl, hclient⟩ := finish_eq_ok hq
      have hp : setup.finish p = .ok (p.report, s') := by rw [finish, hwritten]
      use s', t', rfl
      rw [hq, h.report, hclient, (finish_eq_ok hp).2, h.client]
      exact ⟨rfl, rfl⟩
    · rintro ⟨fault, hfault⟩
      cases hfault

end Setup

namespace Job

variable {job : Job} {setup : Setup σ} {s : Session σ}

/-- A recorder bars a run: the stubs cannot be written out, or a config that is deployed
without the recorder cannot be recorded. -/
def IsBarred (job : Job) (setup : Setup σ) (s : Session σ) : Prop :=
  setup.options.dryRun = false
    ∧ (s.BarsStubs
      ∨ ∃ w ∈ job.visits setup s.unrecorded, ∃ o, w.outcome? = some o ∧ s.Bars o)

/-- The beginning of a run is that of the run without a recorder. -/
theorem start_shadows
    (job : Job) (setup : Setup σ) (s : Session σ) :
  (job.start setup s).Shadows s (job.start setup s.unrecorded)
  := by
  constructor
  · rfl
  · rfl
  · rfl
  · exact s.isUnrecorded_unrecorded
  · exact .of_eq rfl rfl
  · intro folder _ _ type htype _
    apply htype

/-- A recorder is not noticed.  Whether writes fail or not, a run with a recorder ends like the
run without it, with the same fault or with the same report and the same state of the clients,
and on the way each of its visits agrees with the visit there, calls included.  The one
exception is a run that is barred by the character that no path may hold: with the recorder it
ends without a report if it has one without.  Writes fail for what is on the disk and for names
and paths that are too long; that access is refused or that a disk is full does not occur here. -/
theorem unnoticed_unless_isBarred
    (job : Job) (setup : Setup σ) (s : Session σ) :
  (¬ job.IsBarred setup s →
      (job.run setup s).map (fun result => (result.1, result.2.client))
          = (job.run setup s.unrecorded).map (fun result => (result.1, result.2.client))
        ∧ List.Forall₂ (Visit.Agrees setup) (job.visits setup s)
          (job.visits setup s.unrecorded))
    ∧ (job.IsBarred setup s → ∀ report s', job.run setup s.unrecorded = .ok (report, s') →
      job.run setup s = .error .nulInPath)
  := by
  have hstart := job.start_shadows setup s
  constructor
  · intro hnot
    have hvisits : ∀ w ∈ job.visits setup s.unrecorded, ∀ o, w.outcome? = some o →
        ¬ setup.Bars s o := by
      rintro w hw o ho ⟨hreal, hbars⟩
      exact hnot ⟨hreal, .inr ⟨w, hw, o, ho, hbars⟩⟩
    obtain ⟨hagree, hends⟩ := Setup.process_shadows hstart hvisits
    refine ⟨?_, hagree⟩
    generalize hp : setup.process job.items (job.start setup s) = result at hends
    generalize hq : setup.process job.items (job.start setup s.unrecorded) = result' at hends
    cases hends with
    | fault fault => rw [run_of_fault hp, run_of_fault hq]
    | shadows shadows =>
      obtain ⟨s', t', hfinish, hfinish', hclient⟩ := (Setup.finish_shadows shadows).1
        (fun h => hnot ⟨h.1, .inl h.2⟩)
      rw [run_of_process hp, run_of_process hq, hfinish, hfinish']
      simp only [Except.map, hclient]
  · rintro ⟨hreal, hbarred⟩ report t' hbare
    by_cases hvisit : ∃ w ∈ job.visits setup s.unrecorded, ∃ o, w.outcome? = some o ∧ s.Bars o
    · obtain ⟨w, hw, o, ho, hbars⟩ := hvisit
      apply run_of_fault
      apply Setup.process_barred hstart hw ho ⟨hreal, hbars⟩
    · have hstubs := hbarred.resolve_right hvisit
      have hvisits : ∀ w ∈ job.visits setup s.unrecorded, ∀ o, w.outcome? = some o →
          ¬ setup.Bars s o := by
        rintro w hw o ho ⟨-, hbars⟩
        exact hvisit ⟨w, hw, o, ho, hbars⟩
      obtain ⟨-, hends⟩ := Setup.process_shadows hstart hvisits
      generalize hp : setup.process job.items (job.start setup s) = result at hends
      generalize hq : setup.process job.items (job.start setup s.unrecorded) = result' at hends
      cases hends with
      | fault fault =>
        rw [run_of_fault hq] at hbare
        cases hbare
      | shadows shadows =>
        rw [run_of_process hp]
        exact (Setup.finish_shadows shadows).2 ⟨hreal, hstubs⟩

end Job

namespace Sample

/-- A session in which everything that is deployed is recorded. -/
def recordingSession : Session Recording :=
  { session with recorder := some (.ofFolder (some (Path.ofText "/stubs"))) }

/-- The first dashboard, with a type that no file can be named for. -/
def unnameable : Config :=
  { board with coordinate := ⟨"shop", "dash\x00board", "board"⟩ }

end Sample

/-- Two dashboards are deployed as if they were not recorded. -/
theorem unnoticed_unless_isBarred_overview :
  ¬ (Job.inOrder [Sample.board, Sample.overview]).IsBarred Sample.setup Sample.recordingSession
    ∧ ∃ report s' t',
      (Job.inOrder [Sample.board, Sample.overview]).run Sample.setup Sample.recordingSession
          = .ok (report, s')
        ∧ (Job.inOrder [Sample.board, Sample.overview]).run Sample.setup
          Sample.recordingSession.unrecorded = .ok (report, t')
        ∧ s'.client = t'.client
  := by
  have hnames : ((Job.inOrder [Sample.board, Sample.overview]).visits Sample.setup
      Sample.recordingSession.unrecorded).all (fun w => w.outcome?.all (fun o =>
        !decide (HoldsNul o.coordinate.type)
          && o.remoteId?.all (fun id => !decide (HoldsNul id)))) = true := by decide +kernel
  have hok : ((Job.inOrder [Sample.board, Sample.overview]).run Sample.setup
      Sample.recordingSession).toOption.map (fun _ => ()) = some () := by decide +kernel
  have hnot : ¬ (Job.inOrder [Sample.board, Sample.overview]).IsBarred Sample.setup
      Sample.recordingSession := by
    rintro ⟨-, ⟨folder, ⟨⟩, hfolder | ⟨-, type, htype, -⟩⟩
      | ⟨w, hw, o, ho, folder, id, ⟨⟩, hid, hfolder | ⟨-, hnul⟩⟩⟩
    · revert hfolder
      decide +kernel
    · cases htype
    · revert hfolder
      decide +kernel
    · have hw' := List.all_eq_true.mp hnames w hw
      simp [ho, hid] at hw'
      rcases hnul with hnul | hnul
      · exact hw'.1 hnul
      · exact hw'.2 hnul
  obtain ⟨⟨report, s'⟩, h, -⟩ := exists_eq_ok hok
  obtain ⟨heq, -⟩ := (Job.unnoticed_unless_isBarred
    (.inOrder [Sample.board, Sample.overview]) Sample.setup Sample.recordingSession).1 hnot
  use hnot, report, s'
  rw [h] at heq
  cases hbare : (Job.inOrder [Sample.board, Sample.overview]).run Sample.setup
      Sample.recordingSession.unrecorded with
  | error fault =>
    rw [hbare] at heq
    cases heq
  | ok result =>
    rw [hbare] at heq
    obtain ⟨report', t'⟩ := result
    simp only [Except.map, Except.ok.injEq, Prod.mk.injEq] at heq
    obtain ⟨rfl, hclient⟩ := heq
    exact ⟨t', h, rfl, hclient⟩

/-- A dashboard with a type that no file can be named for is deployed without a recorder, and
with one the run ends without a report. -/
theorem recorder_noticed_unnameable :
  (∃ report t', (Job.inOrder [Sample.unnameable]).run Sample.setup
      Sample.recordingSession.unrecorded = .ok (report, t') ∧ report.allOk = true)
    ∧ ¬ ∃ report s', (Job.inOrder [Sample.unnameable]).run Sample.setup Sample.recordingSession
      = .ok (report, s')
  := by
  have hok : ((Job.inOrder [Sample.unnameable]).run Sample.setup
      Sample.recordingSession.unrecorded).toOption.map (fun result => result.1.allOk)
      = some true := by decide +kernel
  have hended : ((Job.inOrder [Sample.unnameable]).run Sample.setup
      Sample.recordingSession).toOption.isNone := by decide +kernel
  constructor
  · obtain ⟨⟨report, t'⟩, h, hallOk⟩ := exists_eq_ok hok
    exact ⟨report, t', h, hallOk⟩
  · rintro ⟨report, s', h⟩
    rw [h] at hended
    cases hended

end Rollout
