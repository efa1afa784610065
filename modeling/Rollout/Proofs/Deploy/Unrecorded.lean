import Rollout.Proofs.Deploy.Recorder
import Rollout.Proofs.Deploy.Totality
import Rollout.Proofs.Files.Paths

/-!
# Deployments with and without a recorder

To record a deployed config changes neither the books nor what the client is asked for.  All
it can do is to end the run, if the folder of the recorder or the file for the payload would
have a path that none can have.
-/

namespace Rollout

variable {σ : Type} {s t : Session σ} {c : Config} {conditions : Conditions} {mode : Mode σ}
  {environment : String} {b : Books} {plan : Plan} {remote : RemoteEntity} {o : Outcome}

/-- The text that others read as a property of what a config left behind. -/
def Outcome.text? (o : Outcome) (property : String) : Option String :=
  o.entity.bind (fun e => (e.properties.find? property).bind Value.text?)

/-- The remote identifier that a config has been deployed with. -/
def Outcome.remoteId? (o : Outcome) : Option String :=
  o.text? idProperty

@[simp]
theorem Config.remoteId?_deployedOutcome
    (c : Config) (environment : String) (plan : Plan) (remote : RemoteEntity) :
  (c.deployedOutcome environment plan remote).remoteId? = some remote.id
  := by
  have hname : nameParameter ≠ idProperty := by decide
  simp [Outcome.remoteId?, Outcome.text?, deployedOutcome, deployedEntity, Table.find?_insert,
    hname, Value.text?]

/-! ### What is barred -/

/-- A deployed config cannot be recorded: its folder has no path, or the folder can be had
and the file for the payload has no path in it. -/
def Session.Bars (s : Session σ) (o : Outcome) : Prop :=
  ∃ folder id, s.folder? = some folder ∧ o.remoteId? = some id
    ∧ (folder.hasNul = true
      ∨ s.disk.Offers folder ∧ (HoldsNul o.coordinate.type ∨ HoldsNul id))

theorem Session.not_bars
    (h : o.remoteId? = none) :
  ¬ s.Bars o
  := by
  rintro ⟨folder, id, -, hid, -⟩
  rw [h] at hid
  cases hid

/-- The course of a run changes nothing about what is barred. -/
theorem Session.RecordsWithin.bars_iff
    (h : s.RecordsWithin t) :
  s.Bars o ↔ t.Bars o
  := by
  rw [Session.Bars, Session.Bars, h.folder]
  apply exists_congr
  intro folder
  apply exists_congr
  intro id
  apply and_congr_right
  intro hfolder
  rw [h.offers folder hfolder]

/-- A deployed object ends a run if its config is barred. -/
theorem Session.keepStub_fault_iff_bars :
  (s.keepStub mode c plan remote).2 = some .nulInPath
    ↔ mode ≠ .validate ∧ s.Bars (c.deployedOutcome environment plan remote)
  := by
  rw [keepStub_fault_iff]
  apply and_congr_right
  intro _
  rw [Session.Bars, Config.remoteId?_deployedOutcome]
  apply exists_congr
  intro folder
  simp only [Option.some_inj, exists_and_left, exists_eq_left']
  apply and_congr_right
  intro _
  apply or_congr_right
  apply and_congr_right
  intro hoffers
  apply Recorder.hasNul_payloadPath_iff hoffers.hasNul

/-! ### One deployment -/

/-- A deployment leads to what another one leads to, unless the outcome of that one is barred
and this one ends the run. -/
structure Deployed.AgreesUnless (barred : Outcome → Prop) (d e : Deployed σ) : Prop where
  books : d.books = e.books
  client : d.session.client = e.session.client
  result : (∀ o, e.result = .ok o → ¬ barred o) → d.result = e.result
  ended : ∀ o, e.result = .ok o → barred o → d.result = .error .nulInPath

/-- With nothing to record, deployments from sessions with one client lead to the same. -/
theorem Deployed.AgreesUnless.of_not_barred
    {barred : Outcome → Prop} {d e : Deployed σ} (hbooks : d.books = e.books)
    (hclient : d.session.client = e.session.client) (hresult : d.result = e.result)
    (hnot : ∀ o, e.result = .ok o → ¬ barred o) :
  d.AgreesUnless barred e
  := by
  constructor
  · apply hbooks
  · apply hclient
  · intro _
    apply hresult
  · intro o ho hbarred
    exact absurd hbarred (hnot o ho)

/-- What is deployed leads to the same without a recorder, unless it is barred. -/
theorem Plan.carryOut_agreesUnless
    (plan : Plan) (hclient : s.client = t.client) (ht : t.IsUnrecorded) (mode : Mode σ)
    (c : Config) (environment : String) (b : Books) :
  ((Decision.push plan).carryOut mode c environment b s).AgreesUnless
    (fun o => mode ≠ .validate ∧ s.Bars o)
    ((Decision.push plan).carryOut mode c environment b t)
  := by
  simp only [Decision.carryOut, hclient]
  cases plan.carryOut mode c t.client with
  | mk answer state =>
    cases answer with
    | error cause =>
      refine .of_not_barred rfl rfl rfl ?_
      rintro o ⟨⟩ ⟨-, hbars⟩
      exact Session.not_bars rfl hbars
    | ok remote =>
      have hbare : Session.IsUnrecorded { t with client := state } := ht
      have hfault := @Session.keepStub_fault_iff_bars σ { s with client := state } c mode
        environment plan remote
      have hcases := @Session.keepStub_fault_cases σ { s with client := state } mode c plan remote
      have hkept := Session.client_keepStub { s with client := state } mode c plan remote
      dsimp only
      rw [hbare.keepStub]
      generalize Session.keepStub { s with client := state } mode c plan remote = kept
        at hfault hcases hkept ⊢
      obtain ⟨s', fault⟩ := kept
      dsimp only at hfault hcases hkept
      rcases hcases with rfl | rfl
      · refine .of_not_barred rfl hkept rfl ?_
        rintro o ⟨⟩ hbarred
        cases hfault.mpr hbarred
      · constructor
        · rfl
        · apply hkept
        · intro hnot
          exact absurd (hfault.mp rfl) (hnot _ rfl)
        · intro o _ _
          rfl

/-- A deployment leads to what it leads to without a recorder, unless the config is barred. -/
theorem Config.deploy_agreesUnless
    (hclient : s.client = t.client) (ht : t.IsUnrecorded) (c : Config) (conditions : Conditions)
    (mode : Mode σ) (environment : String) (b : Books) :
  (c.deploy conditions mode environment b s).AgreesUnless
    (fun o => mode ≠ .validate ∧ s.Bars o) (c.deploy conditions mode environment b t)
  := by
  simp only [deploy]
  cases c.decide conditions b.registry b.names with
  | error fault =>
    refine .of_not_barred rfl hclient rfl ?_
    rintro o ⟨⟩
  | ok decision =>
    have hsilent : ∀ o : Outcome, o.remoteId? = none →
        ∀ o', (.ok o : Except Fault Outcome) = .ok o' → ¬ (mode ≠ .validate ∧ s.Bars o') := by
      rintro o hnone _ ⟨⟩ ⟨-, hbars⟩
      exact Session.not_bars hnone hbars
    cases decision with
    | skip => exact .of_not_barred rfl hclient rfl (hsilent _ rfl)
    | fail variant errors => exact .of_not_barred rfl hclient rfl (hsilent _ rfl)
    | push plan =>
      have htold : (s.tell (c.notices conditions b.registry)).client
          = (t.tell (c.notices conditions b.registry)).client := hclient
      exact plan.carryOut_agreesUnless htold ht mode c environment b

/-- A deployment that has an outcome records nothing but what has been deployed. -/
theorem Config.Course.mem_types
    {d : Deployed σ} (hcourse : c.Course conditions mode environment b s d)
    (h : d.result = .ok o) {type : String} (htype : type ∈ d.session.types) :
  type ∈ s.types
    ∨ mode ≠ .validate ∧ (∃ id, o.remoteId? = some id) ∧ o.coordinate.type = type
  := by
  cases hcourse with
  | fault | skipped | failed | refused => exact .inl htype
  | unwritten => cases h
  | deployed passes carried kept =>
    rename_i plan remote state s'
    cases h
    have hkept := congrArg Prod.fst kept
    dsimp only at hkept htype
    rw [← hkept, Session.mem_types_keepStub_iff] at htype
    rcases htype with htype | ⟨hmode, -, rfl⟩
    · exact .inl htype
    · exact .inr ⟨hmode, ⟨remote.id, c.remoteId?_deployedOutcome environment plan remote⟩, rfl⟩

end Rollout
