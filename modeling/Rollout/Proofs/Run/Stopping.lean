import Rollout.Proofs.Run.Completion
import Rollout.Proofs.Run.Names

/-!
# Runs that stop

A run stops when it is found cancelled in front of a config, or at the first failure if it is
not to continue after errors.  What it has done until then is what a run over its first configs
does that nothing stops: the two reports differ in their flags alone, and the sessions in a
line of the log.
-/

namespace Rollout

variable {σ : Type}

namespace Setup

/-- The same run, except that nothing stops it. -/
def uninterrupted (setup : Setup σ) : Setup σ :=
  { setup with
    options := { setup.options with continueOnError := true }
    cancelled := fun _ => false }

variable {setup : Setup σ} {items : List (String × Config)} {p p' : Progress σ}

theorem not_stops_uninterrupted
    (v : Visit σ) :
  ¬ setup.uninterrupted.Stops v
  := by
  rintro ⟨-, hstops⟩
  cases hstops

/-- Over the configs that a run visits, nothing but its end is changed by what stops it: without
that it makes the same visits, and it has come as far.  Before none of these configs it is found
cancelled. -/
theorem process_uninterrupted
    (h : setup.process items p = .ok p') :
  setup.uninterrupted.process (items.take (setup.visits items p).length) p
      = .ok (setup.after p (setup.visits items p))
    ∧ setup.uninterrupted.visits (items.take (setup.visits items p).length) p
      = setup.visits items p
    ∧ ∀ i < (setup.visits items p).length, setup.cancelled (p.processed + i) = false
  := by
  -- The start varies: each visit moves it on.
  induction items generalizing p with
  | nil => exact ⟨rfl, rfl, by simp [visits]⟩
  | cons item rest ih =>
    obtain ⟨environment, c⟩ := item
    cases hcancel : setup.cancelled p.processed with
    | true =>
      have hnil : setup.visits ((environment, c) :: rest) p = [] := by
        rw [visits, if_pos hcancel]
      rw [hnil]
      exact ⟨rfl, rfl, by simp⟩
    | false =>
      obtain ⟨o, ho⟩ := process_isOk_iff.mp ⟨p', h⟩ _ (visit_mem_visits hcancel)
      have hgoes : ∀ n, setup.uninterrupted.visits ((environment, c) :: rest.take n) p
            = setup.visit p environment c :: setup.uninterrupted.visits (rest.take n)
              (p.follow setup.options (setup.visit p environment c))
          ∧ setup.uninterrupted.process ((environment, c) :: rest.take n) p
            = setup.uninterrupted.process (rest.take n)
              (p.follow setup.options (setup.visit p environment c)) :=
        fun n => setup.uninterrupted.step_of_goes_on (rest.take n) rfl ho
          (not_stops_uninterrupted _)
      by_cases hstops : setup.Stops (setup.visit p environment c)
      · obtain ⟨hone, -⟩ := setup.step_of_stops rest hcancel ho hstops
        obtain ⟨hvisits, hprocess⟩ := hgoes 0
        rw [hone, List.length_singleton, List.take_succ_cons, hvisits, hprocess]
        use rfl, rfl
        intro i hi
        obtain rfl := Nat.lt_one_iff.mp hi
        apply hcancel
      · obtain ⟨hmore, hrest⟩ := setup.step_of_goes_on rest hcancel ho hstops
        rw [hrest] at h
        obtain ⟨hprocessed, hsame, huncancelled⟩ := ih h
        obtain ⟨hvisits, hprocess⟩ := hgoes (setup.visits rest
          (p.follow setup.options (setup.visit p environment c))).length
        rw [hmore, List.length_cons, List.take_succ_cons, hvisits, hprocess, hsame]
        use hprocessed, rfl
        intro i hi
        cases i with
        | zero => apply hcancel
        | succ i =>
          have hi := huncancelled i (Nat.lt_of_succ_lt_succ hi)
          rw [Progress.processed_follow _ _ ho, Nat.add_assoc, Nat.add_comm 1] at hi
          apply hi

end Setup

/-! ### The end of a run -/

/-- A session is another one with some lines inserted into its log. -/
structure Session.Inserts (lines : Log) (s t : Session σ) : Prop where
  client : t.client = s.client
  recorder : t.recorder = s.recorder
  disk : t.disk = s.disk
  log : ∃ first last, s.log = first ++ last ∧ t.log = first ++ lines ++ last

theorem Session.Inserts.refl
    (s : Session σ) :
  s.Inserts [] s
  := ⟨rfl, rfl, rfl, s.log, [], (List.append_nil _).symm, by simp⟩

theorem Session.inserts_tell
    (s : Session σ) (lines : Log) :
  s.Inserts lines (s.tell lines)
  := ⟨rfl, rfl, rfl, s.log, [], (List.append_nil _).symm, (List.append_nil _).symm⟩

theorem Session.Inserts.tell
    {lines : Log} {s t : Session σ} (h : s.Inserts lines t) (log : Log) :
  (s.tell log).Inserts lines (t.tell log)
  := by
  obtain ⟨first, last, hs, ht⟩ := h.log
  use h.client, h.recorder, h.disk, first, last ++ log
  simp only [Session.tell, hs, ht, List.append_assoc, true_and]

namespace Setup

variable {setup : Setup σ} {p p' : Progress σ}

/-- Stubs are written out whatever the log says. -/
theorem writeStubs_inserts
    {lines : Log} {s t t' : Session σ} (h : s.Inserts lines t)
    (ht : setup.writeStubs t = .ok t') :
  ∃ s', setup.writeStubs s = .ok s' ∧ s'.Inserts lines t'
  := by
  obtain ⟨client, recorder, disk, log⟩ := s
  obtain ⟨client', recorder', disk', log'⟩ := t
  obtain ⟨hclient, hrecorder, hdisk, hlog⟩ := h
  dsimp only at hclient hrecorder hdisk hlog
  subst hclient hrecorder hdisk
  rw [writeStubs] at ht ⊢
  cases recorder' with
  | none =>
    cases ht
    exact ⟨_, rfl, rfl, rfl, rfl, hlog⟩
  | some r =>
    dsimp only at ht ⊢
    split at ht
    · rename_i hdry
      cases ht
      rw [if_pos hdry]
      exact ⟨_, rfl, rfl, rfl, rfl, hlog⟩
    · rename_i hreal
      rw [if_neg hreal]
      cases hwritten : (r.writeAll disk').result with
      | error fault =>
        rw [hwritten] at ht
        cases ht
      | ok paths =>
        rw [hwritten] at ht
        cases ht
        obtain ⟨first, last, hfirst, hlast⟩ := hlog
        refine ⟨_, rfl, rfl, rfl, rfl, first, last ++ (r.writeAll disk').log, ?_⟩
        simp only [hfirst, hlast, List.append_assoc, true_and]

/-- What is done at the end of a run does not depend on what has stopped it. -/
theorem finish_inserts
    {lines : Log} {report : Report} {t : Session σ} (h : p.session.Inserts lines p'.session)
    (henvironments : p'.report.environments = p.report.environments)
    (hfinish : setup.finish p' = .ok (report, t)) :
  ∃ s, setup.uninterrupted.finish p = .ok (p.report, s) ∧ s.Inserts lines t
  := by
  rw [finish] at hfinish
  split at hfinish
  · cases hfinish
  · rename_i t' ht
    cases hfinish
    rw [henvironments] at ht
    obtain ⟨s, hs, hinserts⟩ := writeStubs_inserts (h.tell _) ht
    use s
    have hlines : setup.uninterrupted.options.finishedLine = setup.options.finishedLine := rfl
    have hstubs : setup.uninterrupted.writeStubs = setup.writeStubs := rfl
    rw [finish, hlines, hstubs, hs]
    exact ⟨rfl, hinserts⟩

end Setup

/-! ### What stops a run -/

/-- How a run comes to an end after some visits: the flags of its report, and the lines that it
logs there. -/
inductive Setup.Halts (setup : Setup σ) (items : List (String × Config))
    (visits : List (Visit σ)) : Bool → Bool → Log → Prop where
  /-- Nothing stops it, and all configs have been visited. -/
  | complete (all : visits.length = items.length) (goes_on : ∀ v ∈ visits, ¬ setup.Stops v) :
      Halts setup items visits false false []
  /-- It is found cancelled in front of the next config. -/
  | cancelled {item : String × Config} (next : items[visits.length]? = some item)
      (goes_on : ∀ v ∈ visits, ¬ setup.Stops v)
      (found : setup.cancelled visits.length = true) :
      Halts setup items visits true false [item.2.cancelledLine]
  /-- It stops right after a config that has failed. -/
  | aborted {before : List (Visit σ)} {v : Visit σ} (last : visits = before ++ [v])
      (goes_on : ∀ u ∈ before, ¬ setup.Stops u) (stops : setup.Stops v) :
      Halts setup items visits false true [setup.options.stoppedLine v.config]

namespace Job

/-- A run over the first configs of a job only. -/
def runFirst (job : Job) (n : Nat) (setup : Setup σ) (s : Session σ) :
    Except Fault (Report × Session σ) :=
  setup.runItems (job.items.take n) (job.start setup s).report (job.start setup s).session

/-- The visits of a run over the first configs of a job. -/
def visitsFirst (job : Job) (n : Nat) (setup : Setup σ) (s : Session σ) : List (Visit σ) :=
  setup.visits (job.items.take n) (job.start setup s)

/-- The first of configs that are in order are configs that are in order. -/
theorem runFirst_inOrder
    (configs : List Config) (n : Nat) (setup : Setup σ) (s : Session σ) :
  (inOrder configs).runFirst n setup s = (inOrder (configs.take n)).run setup s
  := by
  rw [run_eq, runFirst, items, items, List.map_take]
  rfl

variable {job : Job} {setup : Setup σ} {s s' : Session σ} {report : Report}

/-- A run ends in one of the ways of `Setup.Halts`, and up to the flags and the lines there it
has come as far as its visits. -/
theorem halts_of_ending
    {p : Progress σ} (h : setup.Ending job.items (job.start setup s) (job.visits setup s) p) :
  ∃ lines, setup.Halts job.items (job.visits setup s) p.report.cancelled p.report.aborted lines
    ∧ p.report = { (setup.after (job.start setup s) (job.visits setup s)).report with
        cancelled := p.report.cancelled, aborted := p.report.aborted }
    ∧ (setup.after (job.start setup s) (job.visits setup s)).session.Inserts lines p.session
  := by
  obtain ⟨hcancelled, haborted⟩ := setup.flags_after (job.start setup s) (job.visits setup s)
  rw [(job.flags_start setup s).1] at hcancelled
  rw [(job.flags_start setup s).2] at haborted
  cases h with
  | complete items_eq goes_on =>
    refine ⟨[], ?_, rfl, ?_⟩
    · rw [hcancelled, haborted]
      apply Setup.Halts.complete _ goes_on
      rw [items_eq, List.length_map]
    · exact .refl _
  | cancelled items_eq goes_on found =>
    rename_i item rest
    refine ⟨[item.2.cancelledLine], ?_, rfl, Session.inserts_tell _ _⟩
    have hnext : job.items[(job.visits setup s).length]? = some item := by
      rw [items_eq]
      simp
    have hfound : setup.cancelled (job.visits setup s).length = true := by
      rwa [start, Progress.start, Nat.zero_add] at found
    simp only [Progress.cancel, Progress.tell, haborted]
    apply Setup.Halts.cancelled hnext goes_on hfound
  | stopped visits_eq items_eq goes_on stops =>
    rename_i before v rest
    refine ⟨[setup.options.stoppedLine v.config], ?_, rfl, Session.inserts_tell _ _⟩
    simp only [Progress.abort, Progress.tell, hcancelled]
    apply Setup.Halts.aborted visits_eq goes_on stops

/-- A run that has stopped is a run over its first configs.  If a run comes to an end, then a run
that nothing stops comes to an end over as many configs as were processed: its report is the same
but for the flags, it makes the same visits with the same calls, and it leaves the clients, the
recorder and the disk in the same state.  The flags say how the run has stopped: in front of the
first config at which it is found cancelled, or right after the first failure if it is not to
continue. -/
theorem run_agrees_runFirst
    (h : job.run setup s = .ok (report, s')) :
  ∃ whole s'' lines,
    job.runFirst (job.visits setup s).length setup.uninterrupted s = .ok (whole, s'')
    ∧ report = { whole with cancelled := report.cancelled, aborted := report.aborted }
    ∧ whole.cancelled = false ∧ whole.aborted = false
    ∧ job.visitsFirst (job.visits setup s).length setup.uninterrupted s = job.visits setup s
    ∧ (∀ environment, Visit.callsIn setup.uninterrupted environment
        (job.visitsFirst (job.visits setup s).length setup.uninterrupted s)
      = Visit.callsIn setup environment (job.visits setup s))
    ∧ s''.Inserts lines s'
    ∧ setup.Halts job.items (job.visits setup s) report.cancelled report.aborted lines
    ∧ ∀ i < (job.visits setup s).length, setup.cancelled i = false
  := by
  rw [run_eq, Setup.runItems] at h
  split at h
  · cases h
  · rename_i p hp
    obtain ⟨hprocess, hvisits, huncancelled⟩ := Setup.process_uninterrupted hp
    obtain ⟨lines, hhalts, hreport, hinserts⟩ := halts_of_ending (Setup.ending_of_process hp)
    obtain ⟨rfl, -⟩ := Setup.finish_eq_ok h
    have henvironments : p.report.environments
        = (setup.after (job.start setup s) (job.visits setup s)).report.environments := by
      rw [hreport]
    obtain ⟨s'', hfinish, hinserts⟩ := Setup.finish_inserts hinserts henvironments h
    use (setup.after (job.start setup s) (job.visits setup s)).report, s'', lines
    have hfirst : job.visitsFirst (job.visits setup s).length setup.uninterrupted s
        = job.visits setup s := hvisits
    obtain ⟨hcancelled, haborted⟩ :=
      setup.flags_after (job.start setup s) (job.visits setup s)
    constructor
    · rw [runFirst, Setup.runItems]
      have hprocess : setup.uninterrupted.process
          (job.items.take (job.visits setup s).length)
          (.start (job.start setup.uninterrupted s).report
            (job.start setup.uninterrupted s).session)
          = .ok (setup.after (job.start setup s) (job.visits setup s)) := hprocess
      rw [hprocess]
      exact hfinish
    · use hreport, hcancelled.trans (job.flags_start setup s).1,
        haborted.trans (job.flags_start setup s).2, hfirst
      constructor
      · intro environment
        rw [hfirst]
        rfl
      · use hinserts, hhalts
        intro i hi
        have hi := huncancelled i hi
        rw [start, Progress.start, Nat.zero_add] at hi
        apply hi

end Job

namespace Sample

/-- A run that stops at the first failure. -/
def strict : Setup Recording :=
  { setup with options := { continueOnError := false } }

end Sample

/-- A run that stops at the dashboard whose name is taken is a run over the dashboards up to
that one. -/
theorem run_agrees_runFirst_namesake :
  ∃ report s' whole s'',
    (Job.inOrder [Sample.board, Sample.namesake, Sample.overview]).run Sample.strict Sample.session
        = .ok (report, s')
      ∧ (Job.inOrder [Sample.board, Sample.namesake]).run Sample.strict.uninterrupted Sample.session
        = .ok (whole, s'')
      ∧ report = { whole with aborted := true } ∧ s''.client = s'.client
  := by
  have hflags : ((Job.inOrder [Sample.board, Sample.namesake, Sample.overview]).run Sample.strict
      Sample.session).toOption.map (fun result => (result.1.cancelled, result.1.aborted))
      = some (false, true) := by decide +kernel
  have hlength : ((Job.inOrder [Sample.board, Sample.namesake, Sample.overview]).visits
      Sample.strict Sample.session).length = 2 := by decide +kernel
  obtain ⟨⟨report, s'⟩, h, hflags⟩ := exists_eq_ok hflags
  obtain ⟨hcancelled, haborted⟩ := Prod.mk.inj hflags
  dsimp only at hcancelled haborted
  obtain ⟨whole, s'', lines, hwhole, hreport, hwhole', -, -, -, hinserts, -⟩ :=
    Job.run_agrees_runFirst h
  rw [hlength, Job.runFirst_inOrder] at hwhole
  use report, s', whole, s'', h, hwhole
  constructor
  · rw [hcancelled, haborted, ← hwhole'] at hreport
    exact hreport
  · rw [hinserts.client]

end Rollout
