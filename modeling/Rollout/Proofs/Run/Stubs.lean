import Rollout.Proofs.Deploy.Stubs
import Rollout.Proofs.Run.Entries
import Rollout.Proofs.Run.Unrecorded

/-!
# The stubs of a run

A recorder that was empty before a run mirrors it afterwards: for each type it has one stub for
each config of the type that was deployed, in the order in which they were processed over all
environments.  A run that only validates records nothing.
-/

namespace Rollout

variable {σ : Type}

/-! ### One visit -/

namespace Visit

variable {setup : Setup σ} {v : Visit σ} {o : Outcome}

/-- The visits at which a config of a type is deployed. -/
def deployedOf (type : String) (visits : List (Visit σ)) : List (Visit σ) :=
  visits.filter (fun v => v.state? = some .deployed && v.config.coordinate.type = type)

/-- The visits at which a config of a type is recorded: nothing is in a run that only
validates. -/
def recordedOf (setup : Setup σ) (type : String) (visits : List (Visit σ)) : List (Visit σ) :=
  if setup.options.dryRun then [] else deployedOf type visits

/-- A stub mirrors the outcome of the config of a visit, as it has been entered into the
books. -/
def IsMirroredBy (v : Visit σ) (st : Stub) : Prop :=
  ∃ o, v.outcome? = some o ∧ o.IsOf v.item ∧ o.IsMirroredBy st
    ∧ v.deployed.books.registry.find? v.config.coordinate = o.entity

theorem recordedOf_append
    (setup : Setup σ) (type : String) (visits more : List (Visit σ)) :
  recordedOf setup type (visits ++ more)
    = recordedOf setup type visits ++ recordedOf setup type more
  := by
  rw [recordedOf, recordedOf, recordedOf]
  split
  · rfl
  · rw [deployedOf, List.filter_append]
    rfl

end Visit

/-- A recorder has become another one in the course of some visits: for each type there is one
more stub for each visit at which a config of the type was recorded. -/
structure Recorder.Follows (setup : Setup σ) (visits : List (Visit σ)) (r r' : Recorder) :
    Prop where
  folder : r'.folder = r.folder
  stubs : ∀ type, ∃ stubs, r'.stubsOf type = r.stubsOf type ++ stubs
    ∧ List.Forall₂ Visit.IsMirroredBy (Visit.recordedOf setup type visits) stubs
  filled : r.IsFilled → r'.IsFilled

namespace Recorder.Follows

variable {setup : Setup σ} {r r' r'' : Recorder} {v : Visit σ}

/-- A recorder stays as it is if nothing is recorded. -/
theorem of_nil
    {visits : List (Visit σ)} (h : ∀ type, Visit.recordedOf setup type visits = [])
    (r : Recorder) :
  Follows setup visits r r
  := by
  constructor
  · rfl
  · intro type
    use [], (List.append_nil _).symm
    rw [h type]
    exact .nil
  · exact id

theorem trans
    {visits more : List (Visit σ)} (h : Follows setup visits r r')
    (h' : Follows setup more r' r'') :
  Follows setup (visits ++ more) r r''
  := by
  constructor
  · rw [h'.folder, h.folder]
  · intro type
    obtain ⟨stubs, hstubs, hmirror⟩ := h.stubs type
    obtain ⟨stubs', hstubs', hmirror'⟩ := h'.stubs type
    use stubs ++ stubs'
    rw [hstubs', hstubs, List.append_assoc, Visit.recordedOf_append]
    use rfl
    apply List.rel_append hmirror hmirror'
  · intro hfilled
    apply h'.filled (h.filled hfilled)

/-- A recorder to which a stub is added that mirrors the config of a visit. -/
theorem of_record
    {st : Stub} (hreal : setup.options.dryRun = false) (hstate : v.state? = some .deployed)
    (hmirror : v.IsMirroredBy st) (r : Recorder) :
  Follows setup [v] r (r.record v.config.coordinate.type st)
  := by
  constructor
  · rfl
  · intro type
    rw [stubsOf_record, Visit.recordedOf, hreal, Visit.deployedOf]
    split
    · rename_i htype
      use [st], rfl
      simp [hstate, htype, hmirror]
    · rename_i htype
      use [], (List.append_nil _).symm
      simp [htype]
  · intro hfilled
    apply hfilled.record

end Recorder.Follows

/-- A visit with an outcome records a stub that mirrors its config if that is deployed and
pushed, and nothing otherwise. -/
theorem Visit.recorded
    {setup : Setup σ} {v : Visit σ} {o : Outcome}
    (hv : v.deployed = setup.deploy v.environment v.config v.books v.session)
    (ho : v.outcome? = some o) {r : Recorder} {folder : Path} (hr : v.session.recorder = some r)
    (hfolder : r.folder = some folder) :
  ∃ r', v.deployed.session.recorder = some r' ∧ r.Follows setup [v] r'
  := by
  have hresult := outcome?_eq_some_iff.mp ho
  have hstate : v.state? = some o.state := by rw [state?, ho, Option.map_some]
  have hkept : o.state ≠ .deployed → ∀ type, recordedOf setup type [v] = [] := by
    intro hnot type
    simp [recordedOf, deployedOf, hstate, hnot]
  cases hdry : setup.options.dryRun with
  | true =>
    rcases (course_dry hdry hv).recorded hresult hr hfolder with ⟨-, hsame⟩ | ⟨hmode, -⟩
    · use r, hsame
      apply Recorder.Follows.of_nil
      intro type
      rw [recordedOf, if_pos hdry]
    · exact absurd rfl hmode
  | false =>
    rcases course hdry hv with ⟨-, hunserved⟩ | ⟨client, -, hcourse⟩
    · rw [hunserved] at hresult ⊢
      cases hresult
      refine ⟨r, hr, .of_nil (hkept ?_) r⟩
      rintro ⟨⟩
    · rcases hcourse.recorded hresult hr hfolder
        with ⟨hmode | hnot, hsame⟩ | ⟨-, hdeployed, st, hmirror, hrecorded⟩
      · cases hmode
      · exact ⟨r, hsame, .of_nil (hkept hnot) r⟩
      · use r.record v.config.coordinate.type st, hrecorded
        rw [hdeployed] at hstate
        apply Recorder.Follows.of_record hdry hstate
        use o, ho, hcourse.isOf hresult, hmirror
        obtain ⟨⟨e, he, -, hregistry⟩, -⟩ := (hcourse.contained hresult).deployed hdeployed
        rw [hregistry, Table.find?_insert, if_pos rfl, he]

/-! ### Whole runs -/

namespace Setup

variable {setup : Setup σ} {p : Progress σ} {report : Report} {s' : Session σ}

/-- The end of a run leaves the recorder as it is. -/
theorem recorder_finish
    (h : setup.finish p = .ok (report, s')) :
  s'.recorder = p.session.recorder
  := by
  rw [finish] at h
  split at h
  · cases h
  · rename_i s'' hstubs
    cases h
    rw [(writeStubs_eq_ok hstubs).2]
    rfl

/-- At the end of a run everything that has been recorded is written. -/
theorem disk_finish
    (hreal : setup.options.dryRun = false) {r : Recorder} (hr : p.session.recorder = some r)
    (h : setup.finish p = .ok (report, s')) :
  ∃ paths, (r.writeAll p.session.disk).result = .ok paths
    ∧ s'.disk = (r.writeAll p.session.disk).disk
  := by
  rw [finish] at h
  split at h
  · cases h
  · rename_i s'' hstubs
    cases h
    have htold : (p.session.tell (p.report.environments.values.map
        setup.options.finishedLine)).recorder = some r := hr
    simp only [writeStubs, htold, hreal, Bool.false_eq_true, if_false] at hstubs
    split at hstubs
    · cases hstubs
    · rename_i paths hpaths
      cases hstubs
      exact ⟨paths, hpaths, rfl⟩

end Setup

namespace Job

variable {job : Job} {setup : Setup σ} {s s' : Session σ} {report : Report} {r : Recorder}
  {folder : Path}

/-- After some visits the recorder has a stub more for each of them that recorded one. -/
theorem recorder_after
    (houtcomes : ∀ v ∈ job.visits setup s, ∃ o, v.outcome? = some o)
    {history rest : List (Visit σ)} (h : job.visits setup s = history ++ rest)
    (hr : s.recorder = some r) (hfolder : r.folder = some folder) :
  ∃ r', (setup.after (job.start setup s) history).session.recorder = some r'
    ∧ r.Follows setup history r'
  := by
  -- The history grows at its end, where each visit meets the recorder as the others left it.
  induction history using List.reverseRecOn generalizing rest with
  | nil =>
    use r, hr
    apply Recorder.Follows.of_nil
    intro type
    rw [Visit.recordedOf]
    split
    · rfl
    · rfl
  | append_singleton history v ih =>
    rw [List.append_assoc, List.singleton_append] at h
    obtain ⟨r', hr', hfollows⟩ := ih h
    obtain ⟨hv, -⟩ := Setup.visits_split h
    have hmem := mem_visits h
    obtain ⟨o, ho⟩ := houtcomes v hmem
    have hmet : v.session.recorder = some r' := by
      rw [hv]
      apply hr'
    obtain ⟨r'', hr'', hfollows'⟩ := Visit.recorded (deployed_visit hmem) ho hmet
      (hfollows.folder.trans hfolder)
    use r''
    rw [Setup.after_concat, Progress.follow_of_outcome _ _ ho]
    exact ⟨hr'', hfollows.trans hfollows'⟩

/-- A folder that can be had in front of a run can be had after its visits. -/
theorem offers_after
    {history rest : List (Visit σ)} (h : job.visits setup s = history ++ rest)
    (hr : s.recorder = some r) (hfolder : r.folder = some folder)
    (hoffers : s.disk.Offers folder) :
  (setup.after (job.start setup s) history).session.disk.Offers folder
  := by
  have hrecords : s.RecordsWithin (setup.after (job.start setup s) history).session := by
    apply Setup.session_after _ _ h (.of_eq rfl rfl)
    · intro t log ht
      exact ht.trans (.of_eq rfl rfl)
    · intro environment c b t ht
      apply ht.trans (setup.recordsWithin_deploy environment c b t)
  have hsome : s.folder? = some folder := by
    rw [Session.folder?, hr, Option.bind_some, hfolder]
  apply (hrecords.offers folder (hrecords.folder ▸ hsome)).mp hoffers

/-- The progress at the end of a run has the recorder and the disk that the visits have led
to. -/
theorem exists_finish
    (h : job.run setup s = .ok (report, s')) :
  ∃ p, setup.finish p = .ok (report, s')
    ∧ p.session.recorder
      = (setup.after (job.start setup s) (job.visits setup s)).session.recorder
    ∧ p.session.disk = (setup.after (job.start setup s) (job.visits setup s)).session.disk
  := by
  rw [run_eq, Setup.runItems] at h
  split at h
  · cases h
  · rename_i p hp
    use p, h
    cases Setup.ending_of_process hp with
    | complete | cancelled | stopped => exact ⟨rfl, rfl⟩

/-- The stubs of a recorder mirror the run.  If a run comes to an end with a recorder that has
a folder and was empty before, then it has recorded, for each type, one stub for each config of
the type that was deployed, in the order in which they were processed: a stub with the id and
the name that have been registered, and with the generated identity exactly if that was sent
along.  A run that only validates records nothing.  The types of the recorder are those with
stubs, and if the folder can be had, then the file for each of them is put there, with a text
that is read as the array of the stubs, in which absent identities are left out. -/
theorem stubs_mirror_run
    (hr : s.recorder = some r) (hfolder : r.folder = some folder) (hempty : r.stubs = .empty)
    (h : job.run setup s = .ok (report, s')) :
  ∃ r', s'.recorder = some r' ∧ r'.folder = some folder
    ∧ (setup.options.dryRun = true → ∀ type, r'.stubsOf type = [])
    ∧ (setup.options.dryRun = false → ∀ type, List.Forall₂ Visit.IsMirroredBy
      (Visit.deployedOf type (job.visits setup s)) (r'.stubsOf type))
    ∧ (∀ environment, (report.environment environment).outcomes
      = Visit.outcomes environment (job.visits setup s))
    ∧ (∀ type stubs, (type, stubs) ∈ r'.stubs.entries ↔ stubs = r'.stubsOf type ∧ stubs ≠ [])
    ∧ (setup.options.dryRun = false → s.disk.Offers folder → ∃ disk,
      s'.disk = r'.stubs.entries.foldl (Recorder.putFile folder) disk)
    ∧ ∀ type, ∃ items, Json.parse (Stub.fileText (r'.stubsOf type)).toList = .ok (.array items)
      ∧ List.Forall₂ Stub.IsWrittenAs (r'.stubsOf type) items
  := by
  obtain ⟨houtcomes, -⟩ := run_eq_ok h
  have hvisits : job.visits setup s = job.visits setup s ++ [] := (List.append_nil _).symm
  obtain ⟨r', hr', hfollows⟩ := recorder_after houtcomes hvisits hr hfolder
  obtain ⟨p, hfinish, hrecorder, hdisk⟩ := exists_finish h
  have hbefore : ∀ type, r.stubsOf type = [] := by
    intro type
    rw [Recorder.stubsOf, hempty]
    rfl
  have hstubs : ∀ type, List.Forall₂ Visit.IsMirroredBy
      (Visit.recordedOf setup type (job.visits setup s)) (r'.stubsOf type) := by
    intro type
    obtain ⟨stubs, hstubs, hmirror⟩ := hfollows.stubs type
    rw [hstubs, hbefore type]
    apply hmirror
  have hfilled : r.IsFilled := by
    intro type hfind
    rw [hempty] at hfind
    cases hfind
  use r'
  refine ⟨?_, hfollows.folder.trans hfolder, ?_, ?_, ?_, ?_, ?_, ?_⟩
  · rw [Setup.recorder_finish hfinish, hrecorder, hr']
  · intro hdry type
    have hnone := hstubs type
    rw [Visit.recordedOf, if_pos hdry, List.forall₂_nil_left_iff] at hnone
    apply hnone
  · intro hreal type
    have hmirror := hstubs type
    rw [Visit.recordedOf, hreal] at hmirror
    apply hmirror
  · intro environment
    apply (environment_run h environment).1
  · intro type stubs
    apply (hfollows.filled hfilled).mem_entries_iff
  · intro hreal hoffers
    rw [hr'] at hrecorder
    obtain ⟨paths, hpaths, hwritten⟩ := Setup.disk_finish hreal hrecorder hfinish
    rw [hdisk] at hpaths hwritten
    rw [hwritten, Recorder.disk_writeAll (hfollows.folder.trans hfolder)
      (offers_after hvisits hr hfolder hoffers) hpaths]
    exact ⟨_, rfl⟩
  · intro type
    apply Stub.parse_fileText

end Job

namespace Sample

/-- A custom entity of the shop. -/
def uptime : Config :=
  { board with
    coordinate := ⟨"shop", "slo", "uptime"⟩
    target := .entity "slos" }

end Sample

/-- A dashboard and a custom entity are recorded with one stub each, of which the second has an
identity. -/
theorem stubs_mirror_run_uptime :
  ∃ report s' r' st st', (Job.inOrder [Sample.board, Sample.uptime]).run Sample.setup
      Sample.recordingSession = .ok (report, s')
    ∧ s'.recorder = some r' ∧ r'.stubsOf "dashboard" = [st] ∧ r'.stubsOf "slo" = [st']
    ∧ st.entityId = none ∧ st'.entityId = some (Identity.uuid Sample.uptime.coordinate)
    ∧ ∃ items, Json.parse (Stub.fileText [st']).toList = .ok (.array items)
      ∧ List.Forall₂ Stub.IsWrittenAs [st'] items
  := by
  have hok : ((Job.inOrder [Sample.board, Sample.uptime]).run Sample.setup
      Sample.recordingSession).toOption.map (fun _ => ()) = some () := by decide +kernel
  have hdashboard : (Visit.deployedOf "dashboard" ((Job.inOrder [Sample.board,
      Sample.uptime]).visits Sample.setup Sample.recordingSession)).map
      (fun v => (v.config.coordinate, v.outcome?.bind Outcome.variant))
      = [(Sample.board.coordinate, some .classicUnique)] := by decide +kernel
  have hslo : (Visit.deployedOf "slo" ((Job.inOrder [Sample.board,
      Sample.uptime]).visits Sample.setup Sample.recordingSession)).map
      (fun v => (v.config.coordinate, v.outcome?.bind Outcome.variant))
      = [(Sample.uptime.coordinate, some .entity)] := by decide +kernel
  obtain ⟨⟨report, s'⟩, h, -⟩ := exists_eq_ok hok
  obtain ⟨r', hr', -, -, hstubs, -, -, -, hread⟩ := Job.stubs_mirror_run rfl rfl rfl h
  have hone : ∀ {type : String} {t : Coordinate} {variant : Variant},
      (Visit.deployedOf type ((Job.inOrder [Sample.board, Sample.uptime]).visits Sample.setup
        Sample.recordingSession)).map
          (fun v => (v.config.coordinate, v.outcome?.bind Outcome.variant)) = [(t, some variant)] →
        ∃ st, r'.stubsOf type = [st]
          ∧ st.entityId = if variant.isGenerated then some (Identity.uuid t) else none := by
    intro type t variant hvisits
    obtain ⟨v, hv, hpair⟩ := List.map_eq_singleton_iff.mp hvisits
    have hmirrors := hstubs rfl type
    rw [hv, List.forall₂_cons_left_iff] at hmirrors
    obtain ⟨st, stubs, ⟨o, ho, hof, hmirror, -⟩, hrest, hst⟩ := hmirrors
    rw [List.forall₂_nil_left_iff] at hrest
    obtain ⟨variant', hvariant, hidentity⟩ := hmirror.entityId
    rw [ho, Option.bind_some, hvariant] at hpair
    cases hpair
    use st
    rw [hst, hrest, hidentity, hof.1]
    exact ⟨rfl, rfl⟩
  obtain ⟨st, hst, hidentity⟩ := hone hdashboard
  obtain ⟨st', hst', hidentity'⟩ := hone hslo
  use report, s', r', st, st', h, hr', hst, hst', hidentity, hidentity'
  rw [← hst']
  apply hread

end Rollout
