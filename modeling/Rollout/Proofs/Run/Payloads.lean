import Rollout.Proofs.Files.Contents
import Rollout.Proofs.Run.Relays
import Rollout.Proofs.Run.Stubs

/-!
# The payloads of a run

The payload of every config that is deployed is put into a file of its own, and the stubs into
one file for each type.  The names of the files are put together from types and remote
identifiers, so that two of them can be the same: then the file holds what was written last, and
the payload that was there before is lost.
-/

namespace Rollout

variable {σ : Type}

/-! ### Writing -/

namespace Recorder

variable {r : Recorder} {folder : Path} {d : Disk}

/-- The files for the types, with their texts. -/
def typeFiles (folder : Path) (entries : List (String × List Stub)) : List (Path × String) :=
  entries.map (fun e => (typePath folder e.1, Stub.fileText e.2))

/-- What has failed has no result but the one that stands for a failure. -/
theorem result_failed_ne
    {α : Type} {a a' : α} (h : a ≠ a') (fault : Disk.Fault) (d : Disk) (message : String) :
  (failed fault d message a).result ≠ .ok a'
  := by
  rw [result_failed]
  split
  · rintro ⟨⟩
  · intro hok
    exact h (Except.ok.inj hok)

/-- A payload that is written is the only text that is. -/
theorem writes_writePayload
    {type id payload : String} {path : Path} (hfolder : r.folder = some folder)
    (h : (r.writePayload d type id payload).result = .ok (some path)) :
  d.Writes [(payloadPath folder type id, payload)] (r.writePayload d type id payload).disk
  := by
  have hputting := putting_writePayload hfolder d type id payload
  generalize r.writePayload d type id payload = w at hputting h ⊢
  have hsome := (Option.some_ne_none path).symm
  cases hputting with
  | barred | refused => exact absurd h (result_failed_ne hsome _ _ _)
  | put ensure write =>
    apply Disk.Writes.folder folder
    rw [ensure]
    exact .file write (.refl _)

/-- No more files are written than there are types. -/
theorem length_writeTypes_le
    {entries : List (String × List Stub)} {paths : List Path}
    (h : (writeTypes folder d entries).result = .ok paths) :
  paths.length ≤ entries.length
  := by
  induction entries generalizing d paths with
  | nil =>
    cases h
    exact Nat.le_refl 0
  | cons entry rest ih =>
    obtain ⟨type, stubs⟩ := entry
    rw [writeTypes] at h
    dsimp only at h
    rw [List.length_cons]
    split at h
    · rename_i d' hwrite
      cases hrest : (writeTypes folder d' rest).result with
      | error fault =>
        rw [hrest] at h
        cases h
      | ok others =>
        rw [hrest] at h
        cases h
        exact Nat.succ_le_succ (ih hrest)
    · split at h
      · cases h
      · exact Nat.le_succ_of_le (ih h)

/-- If the files for all types are written, they are written one after another. -/
theorem writes_writeTypes
    {entries : List (String × List Stub)}
    (h : (writeTypes folder d entries).result = .ok (entries.map (fun e => typePath folder e.1))) :
  d.Writes (typeFiles folder entries) (writeTypes folder d entries).disk
  := by
  induction entries generalizing d with
  | nil => exact .refl d
  | cons entry rest ih =>
    obtain ⟨type, stubs⟩ := entry
    rw [writeTypes] at h ⊢
    dsimp only at h ⊢
    cases hwrite : d.write (typePath folder type) (.text (Stub.fileText stubs)) with
    | ok d' =>
      rw [hwrite] at h
      dsimp only at h
      apply Disk.Writes.file hwrite
      apply ih
      cases hrest : (writeTypes folder d' rest).result with
      | error fault =>
        rw [hrest] at h
        cases h
      | ok others =>
        rw [hrest] at h
        exact congrArg Except.ok (List.cons.inj (Except.ok.inj h)).2
    | error fault =>
      -- One file less is written than there are types.
      rw [hwrite] at h
      dsimp only at h
      split at h
      · cases h
      · have hlength := length_writeTypes_le h
        rw [List.length_map, List.length_cons] at hlength
        omega

theorem writes_writeAll
    (hfolder : r.folder = some folder)
    (h : (r.writeAll d).result = .ok (r.stubs.keys.map (typePath folder))) :
  d.Writes (typeFiles folder r.stubs.entries) (r.writeAll d).disk
  := by
  rw [Table.keys, List.map_map] at h
  rw [writeAll, hfolder] at h ⊢
  dsimp only at h ⊢
  apply Disk.Writes.folder folder
  cases hensure : d.ensureFolder folder with
  | mk d' fault =>
    rw [hensure] at h
    cases fault with
    | none => exact writes_writeTypes h
    | some fault =>
      -- Without the folder no file is written, so that there is no type.
      dsimp only at h ⊢
      rw [result_failed] at h
      rw [disk_failed]
      split at h
      · cases h
      · rw [List.map_eq_nil_iff.mp (Except.ok.inj h).symm]
        exact .refl d'

end Recorder

/-- A deployment that has an outcome writes the payload, which is the filled template, if the
config is deployed and pushed, and nothing otherwise. -/
theorem Config.Course.written
    {c : Config} {conditions : Conditions} {mode : Mode σ} {environment : String} {b : Books}
    {s : Session σ} {d : Deployed σ} {o : Outcome} {r : Recorder} {folder : Path}
    (hcourse : c.Course conditions mode environment b s d) (h : d.result = .ok o)
    (hr : s.recorder = some r) (hfolder : r.folder = some folder) :
  ((mode = .validate ∨ o.state ≠ .deployed ∧ o.remoteId? = none) ∧ d.session.disk = s.disk)
    ∨ ∃ id payload, o.remoteId? = some id
      ∧ c.template.render conditions.vars (c.values conditions.vars b.registry).escape
        = .ok payload
      ∧ d.session.disk = (r.writePayload s.disk c.coordinate.type id payload).disk
  := by
  rcases hcourse.kept h hr hfolder with ⟨hidle, -, hsame⟩
    | ⟨-, plan, remote, hpasses, rfl, -, hwritten⟩
  · exact .inl ⟨hidle, hsame⟩
  · obtain ⟨hrender, -⟩ := render_of_payload hpasses.payload
    rw [hpasses.properties] at hrender
    exact .inr ⟨remote.id, plan.payload, c.remoteId?_deployedOutcome environment plan remote,
      hrender, hwritten⟩

/-! ### One visit -/

namespace Visit

variable {setup : Setup σ} {v : Visit σ} {o : Outcome} {r : Recorder} {folder : Path}

/-- The remote identifier that the config has been deployed with. -/
def remoteId? (v : Visit σ) : Option String :=
  v.outcome?.bind Outcome.remoteId?

/-- The template of the config, filled. -/
def payload? (setup : Setup σ) (v : Visit σ) : Option String :=
  (v.config.template.render setup.conditions.vars
    (v.config.values setup.conditions.vars v.books.registry).escape).toOption

/-- The file for the payload of a deployed config, with its text. -/
def payloadFile? (setup : Setup σ) (folder : Path) (v : Visit σ) : Option (Path × String) :=
  v.remoteId?.bind (fun id => (v.payload? setup).map (fun payload =>
    (Recorder.payloadPath folder v.config.coordinate.type id, payload)))

/-- What comes of writing the payload of a deployed config. -/
def writing? (setup : Setup σ) (v : Visit σ) : Option (Recorder.Written (Option Path)) :=
  v.session.recorder.bind (fun r => v.remoteId?.bind (fun id => (v.payload? setup).map
    (fun payload => r.writePayload v.session.disk v.config.coordinate.type id payload)))

/-- The payload of the config is written, if it is deployed. -/
def WritesPayload (setup : Setup σ) (v : Visit σ) : Prop :=
  ∀ w, v.writing? setup = some w → ∃ path, w.result = .ok (some path)

instance (setup : Setup σ) : DecidablePred (WritesPayload setup) :=
  fun v => decidable_of_iff
    ((v.writing? setup).all (fun w => w.result.toOption.join.isSome) = true) (by
      rw [WritesPayload, Option.all_eq_true]
      apply forall_congr'
      intro w
      apply imp_congr_right
      intro _
      cases w.result with
      | error fault => simp [Except.toOption]
      | ok path? => simp [Except.toOption, Option.isSome_iff_exists])

/-- A config that is deployed has a payload. -/
theorem Prepares.payload?_eq
    {payload : String} (h : v.Prepares setup payload) :
  v.payload? setup = some payload
  := by
  rw [payload?, h.render]
  rfl

/-- What is written at a visit is the payload of the config, if it is deployed. -/
theorem written
    (hreal : setup.options.dryRun = false)
    (hv : v.deployed = setup.deploy v.environment v.config v.books v.session)
    (ho : v.outcome? = some o) (hr : v.session.recorder = some r)
    (hfolder : r.folder = some folder) :
  (v.state? ≠ some .deployed ∧ v.remoteId? = none ∧ v.deployed.session.disk = v.session.disk)
    ∨ ∃ id payload, v.remoteId? = some id ∧ v.payload? setup = some payload
      ∧ v.deployed.session.disk
        = (r.writePayload v.session.disk v.config.coordinate.type id payload).disk
  := by
  have hresult := outcome?_eq_some_iff.mp ho
  have hid : v.remoteId? = o.remoteId? := by rw [remoteId?, ho, Option.bind_some]
  have hstate : v.state? = some o.state := by rw [state?, ho, Option.map_some]
  rw [hid, hstate]
  rcases course hreal hv with ⟨-, hunserved⟩ | ⟨client, -, hcourse⟩
  · rw [hunserved] at hresult ⊢
    cases hresult
    refine .inl ⟨?_, rfl, rfl⟩
    rintro ⟨⟩
  · rcases hcourse.written hresult hr hfolder
      with ⟨hmode | ⟨hnot, hnone⟩, hsame⟩ | ⟨id, payload, hsome, hrender, hwritten⟩
    · cases hmode
    · exact .inl ⟨fun h => hnot (Option.some.inj h), hnone, hsame⟩
    · refine .inr ⟨id, payload, hsome, ?_, hwritten⟩
      rw [payload?, hrender]
      rfl

/-- The file for the payload is the only one that is written at a visit. -/
theorem writes
    (hreal : setup.options.dryRun = false)
    (hv : v.deployed = setup.deploy v.environment v.config v.books v.session)
    (ho : v.outcome? = some o) (hr : v.session.recorder = some r)
    (hfolder : r.folder = some folder) (hwrites : v.WritesPayload setup) :
  v.session.disk.Writes (v.payloadFile? setup folder).toList v.deployed.session.disk
  := by
  rw [payloadFile?]
  rcases written hreal hv ho hr hfolder with ⟨-, hnone, hsame⟩ | ⟨id, payload, hid, hpayload, hdisk⟩
  · rw [hnone, hsame]
    exact .refl _
  · have hwriting : v.writing? setup
        = some (r.writePayload v.session.disk v.config.coordinate.type id payload) := by
      rw [writing?, hr, hid, hpayload]
      rfl
    obtain ⟨path, hpath⟩ := hwrites _ hwriting
    rw [hid, hpayload, hdisk]
    exact Recorder.writes_writePayload hfolder hpath

end Visit

/-! ### Whole runs -/

namespace Job

variable {job : Job} {setup : Setup σ} {s s' : Session σ} {report : Report} {r : Recorder}
  {folder : Path}

/-- The session after the visits of a run. -/
def lastSession (job : Job) (setup : Setup σ) (s : Session σ) : Session σ :=
  (setup.after (job.start setup s) (job.visits setup s)).session

/-- All files of a run are written: the one for each payload, and at the end the one for each
type. -/
structure WritesAll (job : Job) (setup : Setup σ) (s : Session σ) : Prop where
  payloads : ∀ v ∈ job.visits setup s, v.WritesPayload setup
  types : ∀ r folder, (job.lastSession setup s).recorder = some r → r.folder = some folder →
    (r.writeAll (job.lastSession setup s).disk).result
      = .ok (r.stubs.keys.map (Recorder.typePath folder))

instance (job : Job) (setup : Setup σ) (s : Session σ) : Decidable (job.WritesAll setup s) :=
  decidable_of_iff
    ((∀ v ∈ job.visits setup s, v.WritesPayload setup)
      ∧ (job.lastSession setup s).recorder.all (fun r => r.folder.all (fun folder =>
        (r.writeAll (job.lastSession setup s).disk).result.toOption
          = some (r.stubs.keys.map (Recorder.typePath folder)))) = true) (by
      constructor
      · rintro ⟨hpayloads, htypes⟩
        use hpayloads
        intro r folder hr hfolder
        simp only [Option.all_eq_true, decide_eq_true_eq] at htypes
        have hwritten := htypes r hr folder hfolder
        cases hresult : (r.writeAll (job.lastSession setup s).disk).result with
        | error fault =>
          rw [hresult] at hwritten
          cases hwritten
        | ok paths =>
          rw [hresult] at hwritten
          exact congrArg Except.ok (Option.some.inj hwritten)
      · rintro ⟨hpayloads, htypes⟩
        use hpayloads
        simp only [Option.all_eq_true, decide_eq_true_eq]
        intro r hr folder hfolder
        rw [htypes r folder hr hfolder]
        rfl)

/-- What some visits have written are the files for the payloads of their configs. -/
theorem writes_after
    (hreal : setup.options.dryRun = false)
    (houtcomes : ∀ v ∈ job.visits setup s, ∃ o, v.outcome? = some o)
    (hwrites : ∀ v ∈ job.visits setup s, v.WritesPayload setup)
    {history rest : List (Visit σ)} (h : job.visits setup s = history ++ rest)
    (hr : s.recorder = some r) (hfolder : r.folder = some folder) :
  s.disk.Writes (history.filterMap (Visit.payloadFile? setup folder))
    (setup.after (job.start setup s) history).session.disk
  := by
  -- The history grows at its end, where each visit writes to the disk as the others left it.
  induction history using List.reverseRecOn generalizing rest with
  | nil => exact .refl s.disk
  | append_singleton history v ih =>
    rw [List.append_assoc, List.singleton_append] at h
    have hbefore := ih h
    obtain ⟨hv, -⟩ := Setup.visits_split h
    have hmem := mem_visits h
    obtain ⟨o, ho⟩ := houtcomes v hmem
    obtain ⟨r', hr', hfollows⟩ := recorder_after houtcomes h hr hfolder
    have hmet : v.session.recorder = some r' := by
      rw [hv]
      apply hr'
    have hdisk : v.session.disk = (setup.after (job.start setup s) history).session.disk := by
      rw [hv]
      rfl
    have hstep := Visit.writes hreal (deployed_visit hmem) ho hmet
      (hfollows.folder.trans hfolder) (hwrites v hmem)
    rw [hdisk] at hstep
    rw [List.filterMap_append, Setup.after_concat, Progress.follow_of_outcome _ _ ho]
    have hone : List.filterMap (Visit.payloadFile? setup folder) [v]
        = (v.payloadFile? setup folder).toList := by
      rw [List.filterMap_cons]
      cases v.payloadFile? setup folder <;> rfl
    rw [hone]
    exact hbefore.trans hstep

/-- A payload is lost only to a file that is written later.  If a run that does not only
validate comes to an end with a recorder that has a folder, and all of its files are written,
then the file for each config that was deployed can be found.  It holds the payload, unless
there is a file for the payload of a later config, or for the stubs of a type, at the same
place: then it holds the text of the last of these. -/
theorem payloads_kept_unless_overwritten
    (hreal : setup.options.dryRun = false) (hr : s.recorder = some r)
    (hfolder : r.folder = some folder) (hwrites : job.WritesAll setup s)
    (h : job.run setup s = .ok (report, s')) :
  ∃ r', s'.recorder = some r'
    ∧ (∀ environment, (report.environment environment).outcomes
      = Visit.outcomes environment (job.visits setup s))
    ∧ ∀ before v after, job.visits setup s = before ++ v :: after →
      v.state? = some .deployed → ∃ id payload place,
        v.remoteId? = some id ∧ v.Prepares setup payload
          ∧ s'.disk.locate (Recorder.payloadPath folder v.config.coordinate.type id) = .ok place
          ∧ s'.disk.read (Recorder.payloadPath folder v.config.coordinate.type id)
            = .ok (.text ((s'.disk.lastAt? place
              (after.filterMap (Visit.payloadFile? setup folder)
                ++ Recorder.typeFiles folder r'.stubs.entries)).getD payload))
  := by
  obtain ⟨houtcomes, -⟩ := run_eq_ok h
  have hvisits : job.visits setup s = job.visits setup s ++ [] := (List.append_nil _).symm
  obtain ⟨r', hr', hfollows⟩ := recorder_after houtcomes hvisits hr hfolder
  have hfolder' := hfollows.folder.trans hfolder
  obtain ⟨p, hfinish, hrecorder, hdisk⟩ := exists_finish h
  have hwritten : s.disk.Writes ((job.visits setup s).filterMap (Visit.payloadFile? setup folder)
      ++ Recorder.typeFiles folder r'.stubs.entries) s'.disk := by
    obtain ⟨-, -, hlast⟩ := Setup.disk_finish hreal (hrecorder.trans hr') hfinish
    rw [hlast, hdisk]
    apply (writes_after hreal houtcomes hwrites.payloads hvisits hr hfolder).trans
    exact Recorder.writes_writeAll hfolder' (hwrites.types r' folder hr' hfolder')
  use r'
  constructor
  · rw [Setup.recorder_finish hfinish, hrecorder, hr']
  · constructor
    · intro environment
      apply (environment_run h environment).1
    · intro before v after hsplit hstate
      have hmem := mem_visits hsplit
      obtain ⟨o, ho⟩ := houtcomes v hmem
      obtain ⟨payload, hprepares, -⟩ := exists_prepares hmem hstate
      obtain ⟨r'', hr'', hfollows'⟩ := recorder_after houtcomes hsplit hr hfolder
      have hmet : v.session.recorder = some r'' := by
        rw [(Setup.visits_split hsplit).1]
        apply hr''
      rcases Visit.written hreal (deployed_visit hmem) ho hmet (hfollows'.folder.trans hfolder)
        with ⟨hnot, -⟩ | ⟨id, text, hid, htext, -⟩
      · exact absurd hstate hnot
      · obtain rfl := Option.some.inj (htext.symm.trans hprepares.payload?_eq)
        have hfile : v.payloadFile? setup folder
            = some (Recorder.payloadPath folder v.config.coordinate.type id, text) := by
          rw [Visit.payloadFile?, hid, htext]
          rfl
        rw [hsplit, List.filterMap_append, List.filterMap_cons_some hfile, List.append_assoc,
          List.cons_append] at hwritten
        obtain ⟨place, hlocate, hread⟩ := hwritten.read
        exact ⟨id, text, place, hid, hprepares, hlocate, hread⟩

/-- A run that comes to an end, and writes all of its files, loses the payload of a config that
has been deployed. -/
def LosesPayload (job : Job) (setup : Setup σ) (s : Session σ) : Prop :=
  ∃ report s' r folder v id payload, setup.options.dryRun = false ∧ s.recorder = some r
    ∧ r.folder = some folder ∧ job.WritesAll setup s ∧ job.run setup s = .ok (report, s')
    ∧ v ∈ job.visits setup s ∧ v.state? = some .deployed ∧ v.remoteId? = some id
    ∧ v.Prepares setup payload
    ∧ s'.disk.read (Recorder.payloadPath folder v.config.coordinate.type id) ≠ .ok (.text payload)

/-- The payload of the first visit is lost if its file holds something else. -/
theorem losesPayload_of_read
    (type id payload : String) (hreal : setup.options.dryRun = false) (hr : s.recorder = some r)
    (hfolder : r.folder = some folder) (hwrites : job.WritesAll setup s)
    (hfirst : (job.visits setup s).head?.map (fun v =>
      (v.config.coordinate.type, v.state?, v.remoteId?, v.payload? setup))
        = some (type, some .deployed, some id, some payload))
    (hread : (job.run setup s).toOption.map (fun result =>
      decide ((result.2.disk.read (Recorder.payloadPath folder type id)).toOption
        = some (.text payload))) = some false) :
  job.LosesPayload setup s
  := by
  obtain ⟨v, hhead, hfacts⟩ := Option.map_eq_some_iff.mp hfirst
  have hv := List.mem_of_mem_head? hhead
  obtain ⟨rfl, hstate, hid, hpayload⟩ := by simpa using hfacts
  obtain ⟨text, hprepares, -⟩ := exists_prepares hv hstate
  obtain rfl := Option.some.inj (hpayload.symm.trans hprepares.payload?_eq)
  obtain ⟨⟨report, s'⟩, h, hother⟩ := exists_eq_ok hread
  refine ⟨report, s', r, folder, v, id, payload, hreal, hr, hfolder, hwrites, h, hv, hstate, hid,
    hprepares, ?_⟩
  intro hkept
  apply of_decide_eq_false hother
  rw [hkept]
  rfl

end Job

namespace Sample

/-- A dashboard of a type that ends in the remote identifier of another one. -/
def mural : Config :=
  { board with
    coordinate := ⟨"shop", "dashboard_dashboard-1", "mural"⟩
    parameters := .ofList [(nameParameter, .value (.text "Mural"))] }

/-- The custom entity of the shop with another payload, in another environment. -/
def standby : Config :=
  { uptime with
    template := ⟨"standby.json", "[1]"⟩
    environment := "standby" }

end Sample

/-- The payload of a dashboard can be read again after a custom entity and the files for both
types have been written. -/
theorem payloads_kept_unless_overwritten_uptime :
  ∃ report s' v payload, (Job.inOrder [Sample.board, Sample.uptime]).run Sample.setup
      Sample.recordingSession = .ok (report, s')
    ∧ v ∈ (Job.inOrder [Sample.board, Sample.uptime]).visits Sample.setup Sample.recordingSession
    ∧ v.state? = some .deployed ∧ v.remoteId? = some "dashboard-1"
    ∧ v.Prepares Sample.setup payload
    ∧ s'.disk.read (Recorder.payloadPath (Path.ofText "/stubs") v.config.coordinate.type
      "dashboard-1") = .ok (.text payload)
  := by
  have hvisits : ((Job.inOrder [Sample.board, Sample.uptime]).visits Sample.setup
      Sample.recordingSession).map (fun v => (v.config.coordinate.type, v.state?, v.remoteId?))
      = [("dashboard", some .deployed, some "dashboard-1"),
        ("slo", some .deployed, some "f8baea9c-50f8-52ca-bc7f-52b05bf35acd")] := by
    decide +kernel
  -- Nothing is written at the place of the first payload after it.
  have hlast : ((Job.inOrder [Sample.board, Sample.uptime]).run Sample.setup
      Sample.recordingSession).toOption.map (fun result =>
        ((result.2.disk.locate (Recorder.payloadPath (Path.ofText "/stubs") "dashboard"
          "dashboard-1")).toOption,
        result.2.recorder.map (fun r => result.2.disk.lastAt?
          ["stubs", "dashboard_dashboard-1.json"]
          (((Job.inOrder [Sample.board, Sample.uptime]).visits Sample.setup
            Sample.recordingSession).tail.filterMap (Visit.payloadFile? Sample.setup
              (Path.ofText "/stubs"))
            ++ Recorder.typeFiles (Path.ofText "/stubs") r.stubs.entries))))
      = some (some ["stubs", "dashboard_dashboard-1.json"], some none) := by
    decide +kernel
  obtain ⟨⟨report, s'⟩, h, hfacts⟩ := exists_eq_ok hlast
  obtain ⟨r', hr', -, hkept⟩ :=
    Job.payloads_kept_unless_overwritten rfl rfl rfl (by decide +kernel) h
  obtain ⟨v, rest, hsplit, hv, -⟩ := List.map_eq_cons_iff.mp hvisits
  obtain ⟨htype, hstate, hid⟩ := by simpa using hv
  obtain ⟨id, payload, place, hid', hprepares, hlocate, hread⟩ := hkept [] v rest hsplit hstate
  obtain rfl := Option.some.inj (hid.symm.trans hid')
  rw [hsplit, List.tail_cons, hr'] at hfacts
  rw [htype] at hlocate hread
  rw [hlocate] at hfacts
  obtain ⟨hplace, hnone⟩ := by simpa [Except.toOption] using hfacts
  rw [hplace, hnone] at hread
  have hmem : v ∈ (Job.inOrder [Sample.board, Sample.uptime]).visits Sample.setup
      Sample.recordingSession := by
    rw [hsplit]
    exact List.mem_cons_self
  refine ⟨report, s', v, payload, h, hmem, hstate, hid, hprepares, ?_⟩
  rw [htype]
  exact hread

/-- The file for the stubs of a type takes the place of a payload, and so does the payload of
the same config in another environment. -/
theorem losesPayload_mural_standby :
  (Job.inOrder [Sample.board, Sample.mural]).LosesPayload Sample.setup Sample.recordingSession
    ∧ (Job.inOrder [Sample.uptime, Sample.standby]).LosesPayload Sample.setup
      Sample.recordingSession
  := by
  constructor
  · apply Job.losesPayload_of_read "dashboard" "dashboard-1" "[]" rfl rfl rfl
    · decide +kernel
    · decide +kernel
    · decide +kernel
  · apply Job.losesPayload_of_read "slo" "f8baea9c-50f8-52ca-bc7f-52b05bf35acd" "[]" rfl rfl rfl
    · decide +kernel
    · decide +kernel
    · decide +kernel

end Rollout
