import Rollout.Proofs.Deploy.Course
import Rollout.Proofs.Files.Folders

/-!
# Recorders within each other

Whether a recorder ends a run depends on the folder that it writes to, on whether this folder
can be had, and on the names of the files.  The first two stay as they are in the course of a
run, so that a run ends for the names of its own files alone, whatever else is recorded into
the folder.
-/

namespace Rollout

variable {σ τ : Type}

/-! ### What stops a recorder -/

namespace Recorder

variable {r : Recorder} {d : Disk} {folder : Path}

/-- Writing is stopped by a path that no file can have. -/
def Written.Stops {α : Type} (w : Written α) : Prop :=
  ∃ fault, w.result = .error fault

theorem result_failed
    {α : Type} (fault : Disk.Fault) (d : Disk) (message : String) (a : α) :
  (failed fault d message a).result = if fault = .nul then .error .nul else .ok a
  := by
  cases fault <;> rfl

theorem disk_failed
    {α : Type} (fault : Disk.Fault) (d : Disk) (message : String) (a : α) :
  (failed fault d message a).disk = d
  := by
  cases fault <;> rfl

theorem stops_failed_iff
    {α : Type} {fault : Disk.Fault} {message : String} {a : α} :
  (failed fault d message a).Stops ↔ fault = .nul
  := by
  rw [Written.Stops, result_failed]
  split
  · rename_i h
    simp [h]
  · rename_i h
    simp [h]

theorem folder_record
    (r : Recorder) (type : String) (stub : Stub) :
  (r.record type stub).folder = r.folder
  := rfl

/-- What comes of writing a payload into a folder. -/
inductive Putting (folder : Path) (d : Disk) (type id payload : String) :
    Written (Option Path) → Prop where
  /-- The folder cannot be had. -/
  | barred {d' : Disk} {fault : Disk.Fault} {message : String}
      (ensure : d.ensureFolder folder = (d', some fault)) :
      Putting folder d type id payload (failed fault d' message none)
  /-- The file cannot be written. -/
  | refused {d' : Disk} {fault : Disk.Fault} {message : String}
      (ensure : d.ensureFolder folder = (d', none))
      (write : d'.write (payloadPath folder type id) (.text payload) = .error fault) :
      Putting folder d type id payload (failed fault d' message none)
  /-- The file is written. -/
  | put {d' d'' : Disk} (ensure : d.ensureFolder folder = (d', none))
      (write : d'.write (payloadPath folder type id) (.text payload) = .ok d'') :
      Putting folder d type id payload ⟨.ok (some (payloadPath folder type id)), d'', []⟩

theorem putting_writePayload
    (hfolder : r.folder = some folder) (d : Disk) (type id payload : String) :
  Putting folder d type id payload (r.writePayload d type id payload)
  := by
  rw [writePayload, hfolder]
  dsimp only
  cases hensure : d.ensureFolder folder with
  | mk d' fault =>
    cases fault with
    | some fault => exact .barred hensure
    | none =>
      dsimp only
      cases hwrite : d'.write (payloadPath folder type id) (.text payload) with
      | error fault => exact .refused hensure hwrite
      | ok d'' => exact .put hensure hwrite

/-- A payload stops a recorder if no folder or no file can have its path. -/
theorem writePayload_stops_iff
    (hfolder : r.folder = some folder) {type id payload : String} :
  (r.writePayload d type id payload).Stops
    ↔ folder.hasNul = true ∨ d.Offers folder ∧ (payloadPath folder type id).hasNul = true
  := by
  have hputting := putting_writePayload hfolder d type id payload
  generalize r.writePayload d type id payload = w at hputting ⊢
  rw [← @Disk.ensureFolder_eq_nul_iff d, Disk.Offers]
  cases hputting with
  | barred ensure => simp [ensure, stops_failed_iff]
  | refused ensure write =>
    rw [← Disk.write_eq_nul_iff, write]
    simp [ensure, stops_failed_iff]
  | put ensure write =>
    rw [← Disk.write_eq_nul_iff, write]
    simp [ensure, Written.Stops]

/-- To write a payload does not change whether the folder can be had. -/
theorem offers_writePayload_iff
    (hfolder : r.folder = some folder) {type id payload : String} :
  (r.writePayload d type id payload).disk.Offers folder ↔ d.Offers folder
  := by
  have hputting := putting_writePayload hfolder d type id payload
  generalize r.writePayload d type id payload = w at hputting ⊢
  have hthere := @Disk.isFolder_ensureFolder d folder
  rw [← @Disk.offers_ensureFolder_iff d]
  cases hputting with
  | barred ensure | refused ensure => rw [disk_failed, ensure]
  | put ensure write =>
    rw [Disk.Offers, ensure] at hthere
    rw [ensure]
    have hfolder := hthere rfl
    exact iff_of_true (Disk.offers_of_isFolder ((Disk.keeps_write write).isFolder hfolder))
      (Disk.offers_of_isFolder hfolder)

/-- The files for the types stop a recorder if one of them has a path that none can have. -/
theorem writeTypes_stops_iff
    {entries : List (String × List Stub)} :
  (writeTypes folder d entries).Stops
    ↔ ∃ type ∈ entries.map Prod.fst, (typePath folder type).hasNul = true
  := by
  induction entries generalizing d with
  | nil => simp [writeTypes, Written.Stops]
  | cons entry rest ih =>
    obtain ⟨type, stubs⟩ := entry
    have hhead := @Disk.write_eq_nul_iff d (typePath folder type) (.text (Stub.fileText stubs))
    simp only [List.map_cons, List.mem_cons, or_and_right, exists_or, exists_eq_left]
    rw [← hhead, writeTypes]
    dsimp only
    cases hwrite : d.write (typePath folder type) (.text (Stub.fileText stubs)) with
    | ok d' =>
      rw [← @ih d']
      dsimp only [Written.Stops]
      cases (writeTypes folder d' rest).result with
      | ok paths => simp [Except.map]
      | error fault => simp [Except.map]
    | error fault =>
      rw [← @ih d]
      dsimp only
      rw [result_failed]
      by_cases hnul : fault = .nul
      · subst hnul
        simp [Written.Stops]
      · rw [if_neg hnul]
        simp [Written.Stops, hnul]

/-- The files for the types are written into a folder that can be had. -/
theorem writeAll_stops_iff
    (hfolder : r.folder = some folder) :
  (r.writeAll d).Stops
    ↔ folder.hasNul = true
      ∨ d.Offers folder ∧ ∃ type ∈ r.stubs.keys, (typePath folder type).hasNul = true
  := by
  rw [← @Disk.ensureFolder_eq_nul_iff d, Disk.Offers, writeAll, hfolder]
  dsimp only
  cases hensure : d.ensureFolder folder with
  | mk d' fault =>
    cases fault with
    | some fault => simp [stops_failed_iff]
    | none =>
      dsimp only
      rw [writeTypes_stops_iff]
      simp [Table.keys]

end Recorder

/-! ### Sessions -/

namespace Session

variable {s s' t t' : Session σ}

/-- The folder that is written to, if there is one. -/
def folder? (s : Session σ) : Option Path :=
  s.recorder.bind Recorder.folder

/-- The types that something has been recorded for. -/
def types (s : Session σ) : List String :=
  (s.recorder.map (fun r => r.stubs.keys)).getD []

/-- A session records to the same folder as another one, with the same chances, and it has
recorded no other types. -/
structure RecordsWithin (s t : Session σ) : Prop where
  folder : s.folder? = t.folder?
  offers : ∀ folder, t.folder? = some folder → (s.disk.Offers folder ↔ t.disk.Offers folder)
  types : s.types ⊆ t.types

theorem RecordsWithin.trans
    (h : s.RecordsWithin t) (h' : t.RecordsWithin t') :
  s.RecordsWithin t'
  := by
  constructor
  · apply h.folder.trans h'.folder
  · intro folder hfolder
    apply (h.offers folder (h'.folder.trans hfolder)).trans (h'.offers folder hfolder)
  · apply List.Subset.trans h.types h'.types

/-- Nothing but the recorder and the disk is of account for this. -/
theorem RecordsWithin.of_eq
    (hrecorder : s.recorder = t.recorder) (hdisk : s.disk = t.disk) :
  s.RecordsWithin t
  := by
  constructor
  · rw [folder?, folder?, hrecorder]
  · intro folder _
    rw [hdisk]
  · rw [Session.types, Session.types, hrecorder]
    apply List.Subset.refl

/-- What comes of recording a deployed object. -/
inductive Keeping (s : Session σ) (mode : Mode σ) (c : Config) (plan : Plan)
    (remote : RemoteEntity) : Session σ × Option Fault → Prop where
  /-- Nothing is recorded. -/
  | idle (idle : mode = .validate ∨ s.folder? = none) : Keeping s mode c plan remote (s, none)
  /-- The object is recorded, and its payload is written unless that ends the run. -/
  | recorded {client : Client σ} {r : Recorder} {folder : Path} {fault : Option Fault} {log : Log}
      (push : mode = .push client) (recorder : s.recorder = some r)
      (folder_eq : r.folder = some folder)
      (stops_iff : fault = some .nulInPath
        ↔ ((r.record c.coordinate.type (c.stub plan remote)).writePayload s.disk
          c.coordinate.type remote.id plan.payload).Stops)
      (fault_cases : fault = none ∨ fault = some .nulInPath) :
      Keeping s mode c plan remote
        (⟨s.client, some (r.record c.coordinate.type (c.stub plan remote)),
          ((r.record c.coordinate.type (c.stub plan remote)).writePayload s.disk
            c.coordinate.type remote.id plan.payload).disk, log⟩, fault)

theorem keeping_keepStub
    (s : Session σ) (mode : Mode σ) (c : Config) (plan : Plan) (remote : RemoteEntity) :
  s.Keeping mode c plan remote (s.keepStub mode c plan remote)
  := by
  cases mode with
  | validate => exact .idle (.inl rfl)
  | push client =>
    cases hrecorder : s.recorder with
    | none =>
      have hnone : s.folder? = none := by rw [folder?, hrecorder, Option.bind_none]
      simp only [Session.keepStub, hrecorder]
      exact .idle (.inr hnone)
    | some r =>
      simp only [Session.keepStub, hrecorder]
      split
      · rename_i henabled
        obtain ⟨folder, hfolder⟩ := Option.isSome_iff_exists.mp henabled
        split
        · rename_i hresult
          exact .recorded rfl hrecorder hfolder (by simp [Recorder.Written.Stops, hresult])
            (.inl rfl)
        · rename_i hresult
          exact .recorded rfl hrecorder hfolder (by simp [Recorder.Written.Stops, hresult])
            (.inr rfl)
      · rename_i hdisabled
        have hnone : s.folder? = none := by
          rw [folder?, hrecorder]
          simpa [Recorder.enabled] using hdisabled
        exact .idle (.inr hnone)

section

variable {mode : Mode σ} {c : Config} {plan : Plan} {remote : RemoteEntity}

theorem folder?_keepStub :
  (s.keepStub mode c plan remote).1.folder? = s.folder?
  := by
  have hkeeping := s.keeping_keepStub mode c plan remote
  generalize s.keepStub mode c plan remote = result at hkeeping ⊢
  cases hkeeping with
  | idle => rfl
  | recorded push recorder folder_eq =>
    rw [folder?, folder?, recorder]
    rfl

/-- To record an object does not change whether the folder can be had. -/
theorem offers_keepStub_iff
    {folder : Path} (hfolder : s.folder? = some folder) :
  (s.keepStub mode c plan remote).1.disk.Offers folder ↔ s.disk.Offers folder
  := by
  have hkeeping := s.keeping_keepStub mode c plan remote
  generalize s.keepStub mode c plan remote = result at hkeeping ⊢
  cases hkeeping with
  | idle => rfl
  | recorded push recorder folder_eq =>
    rw [folder?, recorder, Option.bind_some, folder_eq] at hfolder
    cases hfolder
    apply Recorder.offers_writePayload_iff
    rw [Recorder.folder_record, folder_eq]

/-- An object is recorded for the type of its config. -/
theorem mem_types_keepStub_iff
    {type : String} :
  type ∈ (s.keepStub mode c plan remote).1.types
    ↔ type ∈ s.types
      ∨ mode ≠ .validate ∧ s.folder? ≠ none ∧ type = c.coordinate.type
  := by
  have hkeeping := s.keeping_keepStub mode c plan remote
  generalize s.keepStub mode c plan remote = result at hkeeping ⊢
  cases hkeeping with
  | idle idle =>
    dsimp only
    constructor
    · exact .inl
    · rintro (h | ⟨hmode, hfolder, -⟩)
      · apply h
      · rcases idle with hidle | hidle
        · exact absurd hidle hmode
        · exact absurd hidle hfolder
  | recorded push recorder folder_eq =>
    simp only [types, folder?, recorder, push, Option.map_some, Option.getD_some,
      Option.bind_some, folder_eq, Table.keys, Recorder.record, Table.insert,
      Table.mem_keys_store]
    simp [or_comm]

/-- A deployed object ends a run if no folder or no file can have the path of its payload. -/
theorem keepStub_fault_iff :
  (s.keepStub mode c plan remote).2 = some .nulInPath
    ↔ mode ≠ .validate ∧ ∃ folder, s.folder? = some folder
      ∧ (folder.hasNul = true ∨ s.disk.Offers folder
        ∧ (Recorder.payloadPath folder c.coordinate.type remote.id).hasNul = true)
  := by
  have hkeeping := s.keeping_keepStub mode c plan remote
  generalize s.keepStub mode c plan remote = result at hkeeping ⊢
  cases hkeeping with
  | idle idle =>
    rcases idle with hidle | hidle
    · simp [hidle]
    · simp [hidle]
  | recorded push recorder folder_eq stops_iff =>
    have hfolder :=
      (Recorder.folder_record _ c.coordinate.type (c.stub plan remote)).trans folder_eq
    rw [stops_iff, Recorder.writePayload_stops_iff hfolder, folder?, recorder,
      Option.bind_some, folder_eq, push]
    simp

theorem keepStub_fault_cases :
  (s.keepStub mode c plan remote).2 = none
    ∨ (s.keepStub mode c plan remote).2 = some .nulInPath
  := by
  have hkeeping := s.keeping_keepStub mode c plan remote
  generalize s.keepStub mode c plan remote = result at hkeeping ⊢
  cases hkeeping with
  | idle => exact .inl rfl
  | recorded _ _ _ _ fault_cases => apply fault_cases

/-- A session records within what it becomes. -/
theorem RecordsWithin.of_keepStub
    {fault : Option Fault} (h : s.keepStub mode c plan remote = (s', fault)) :
  s.RecordsWithin s'
  := by
  obtain rfl : (s.keepStub mode c plan remote).1 = s' := congrArg Prod.fst h
  constructor
  · exact folder?_keepStub.symm
  · intro folder hfolder
    rw [folder?_keepStub] at hfolder
    exact (offers_keepStub_iff hfolder).symm
  · intro type htype
    exact mem_types_keepStub_iff.mpr (.inl htype)

/-- An object that is recorded in both of two sessions ends both of them or none, and one goes
on to record within the other one. -/
theorem RecordsWithin.keepStub
    (h : s.RecordsWithin t) (mode : Mode σ) (c : Config) (plan : Plan) (remote : RemoteEntity) :
  (s.keepStub mode c plan remote).2 = (t.keepStub mode c plan remote).2
    ∧ (s.keepStub mode c plan remote).1.RecordsWithin (t.keepStub mode c plan remote).1
  := by
  constructor
  · have hiff : (s.keepStub mode c plan remote).2 = some .nulInPath
        ↔ (t.keepStub mode c plan remote).2 = some .nulInPath := by
      rw [keepStub_fault_iff, keepStub_fault_iff, h.folder]
      apply and_congr_right
      intro _
      apply exists_congr
      intro folder
      apply and_congr_right
      intro hfolder
      rw [h.offers folder hfolder]
    rcases @keepStub_fault_cases σ s mode c plan remote with hs | hs
    · rcases @keepStub_fault_cases σ t mode c plan remote with ht | ht
      · rw [hs, ht]
      · rw [hiff.mpr ht, ht]
    · rw [hiff.mp hs, hs]
  · constructor
    · rw [folder?_keepStub, folder?_keepStub, h.folder]
    · intro folder hfolder
      rw [folder?_keepStub] at hfolder
      rw [offers_keepStub_iff (h.folder.trans hfolder), offers_keepStub_iff hfolder,
        h.offers folder hfolder]
    · intro type htype
      rw [mem_types_keepStub_iff, h.folder] at htype
      apply mem_types_keepStub_iff.mpr
      exact htype.imp_left (fun hold => h.types hold)

end

/-- A session with the client of another one, which records within that one. -/
structure Mirrors (s t : Session σ) : Prop where
  client : s.client = t.client
  records : s.RecordsWithin t

/-- The recorders are not touched by a new state of the client or by lines that are logged. -/
theorem RecordsWithin.mirrors
    (h : s.RecordsWithin t) (client : σ) (log log' : Log) :
  Mirrors ⟨client, s.recorder, s.disk, log⟩ ⟨client, t.recorder, t.disk, log'⟩
  := ⟨rfl, h.folder, h.offers, h.types⟩

theorem Mirrors.keepStub
    (h : s.Mirrors t) (mode : Mode σ) (c : Config) (plan : Plan) (remote : RemoteEntity) :
  (s.keepStub mode c plan remote).2 = (t.keepStub mode c plan remote).2
    ∧ (s.keepStub mode c plan remote).1.Mirrors (t.keepStub mode c plan remote).1
  := by
  obtain ⟨hfault, hrecords⟩ := h.records.keepStub mode c plan remote
  use hfault
  constructor
  · rw [client_keepStub, client_keepStub, h.client]
  · apply hrecords

end Session

/-! ### Deployments -/

/-- A deployment leads to what another one leads to, from a session that mirrors that one's. -/
structure Deployed.Mirrors (d e : Deployed σ) : Prop where
  result : d.result = e.result
  books : d.books = e.books
  session : d.session.Mirrors e.session

/-- Deployments of a config from sessions that mirror each other do so as well. -/
theorem Config.deploy_mirrors
    {s t : Session σ} (h : s.Mirrors t) (c : Config) (conditions : Conditions) (mode : Mode σ)
    (environment : String) (b : Books) :
  (c.deploy conditions mode environment b s).Mirrors (c.deploy conditions mode environment b t)
  := by
  simp only [deploy]
  cases c.decide conditions b.registry b.names with
  | error fault =>
    simp only [Session.tell, h.client]
    exact ⟨rfl, rfl, h.records.mirrors t.client _ _⟩
  | ok decision =>
    cases decision with
    | skip =>
      simp only [Decision.carryOut, Session.tell, h.client]
      exact ⟨rfl, rfl, h.records.mirrors t.client _ _⟩
    | fail variant errors =>
      simp only [Decision.carryOut, Session.tell, h.client]
      exact ⟨rfl, rfl, h.records.mirrors t.client _ _⟩
    | push plan =>
      simp only [Decision.carryOut, Session.tell, h.client]
      cases plan.carryOut mode c t.client with
      | mk answer state =>
        cases answer with
        | error cause => exact ⟨rfl, rfl, h.records.mirrors state _ _⟩
        | ok remote =>
          have hmirrors := h.records.mirrors state (s.log ++ c.notices conditions b.registry)
            (t.log ++ c.notices conditions b.registry)
          obtain ⟨hfault, hkept⟩ := hmirrors.keepStub mode c plan remote
          dsimp only
          generalize Session.keepStub ⟨state, s.recorder, s.disk,
            s.log ++ c.notices conditions b.registry⟩ mode c plan remote = kept at hfault hkept ⊢
          generalize Session.keepStub ⟨state, t.recorder, t.disk,
            t.log ++ c.notices conditions b.registry⟩ mode c plan remote = kept' at hfault hkept ⊢
          obtain ⟨s', fault⟩ := kept
          obtain ⟨t', fault'⟩ := kept'
          dsimp only at hfault hkept
          subst hfault
          cases fault with
          | none => exact ⟨rfl, rfl, hkept⟩
          | some fault => exact ⟨rfl, rfl, hkept⟩

/-- A session records within what a deployment makes of it. -/
theorem Config.Course.recordsWithin
    {c : Config} {conditions : Conditions} {mode : Mode σ} {environment : String} {b : Books}
    {s : Session σ} {d : Deployed σ} (hcourse : c.Course conditions mode environment b s d) :
  s.RecordsWithin d.session
  := by
  cases hcourse with
  | fault => exact .of_eq rfl rfl
  | skipped => exact .of_eq rfl rfl
  | failed => exact .of_eq rfl rfl
  | refused => exact .of_eq rfl rfl
  | deployed passes carried kept =>
    apply Session.RecordsWithin.trans _ (.of_keepStub kept)
    exact .of_eq rfl rfl
  | unwritten passes carried kept =>
    apply Session.RecordsWithin.trans _ (.of_keepStub kept)
    exact .of_eq rfl rfl

end Rollout
