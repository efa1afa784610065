import Mathlib.Data.List.Forall2
import Rollout.Proofs.Deploy.Unrecorded
import Rollout.Proofs.Template.Structured

/-!
# Stubs of deployed configs

A stub mirrors a config that has been deployed: it has the id and the name that others read of
what the config left behind, and the generated identity exactly if it was sent along.  The text
of the file for a list of stubs is JSON, from which the stubs can be read again.
-/

namespace Rollout

variable {σ : Type}

/-! ### The file for a list of stubs -/

namespace Json

/-- The text that an object has as a member. -/
def memberText? (name : String) : Json → Option String
  | .object members =>
    match members.lookup (points name) with
    | some (.text points) => some (String.ofList (points.map Char.ofNat))
    | _ => none
  | _ => none

/-- Whether an object has a member. -/
def hasMember (name : String) : Json → Bool
  | .object members => (members.lookup (points name)).isSome
  | _ => false

end Json

namespace Stub

/-- A stub is written as a JSON object, in which an absent identity is left out. -/
structure IsWrittenAs (st : Stub) (j : Json) : Prop where
  id : j.memberText? "id" = some st.id
  name : j.memberText? "name" = some st.name
  entityId : j.memberText? "entity_id" = st.entityId
  left_out : j.hasMember "entity_id" = st.entityId.isSome

theorem isWrittenAs_toJson
    (st : Stub) :
  st.IsWrittenAs st.toJson
  := by
  obtain ⟨id, name, entityId⟩ := st
  have hname : (Json.points "name" == Json.points "id") = false := by decide
  have hid : (Json.points "entity_id" == Json.points "id") = false := by decide
  have hid' : (Json.points "entity_id" == Json.points "name") = false := by decide
  cases entityId with
  | none =>
    constructor <;>
      simp [toJson, Json.memberText?, Json.hasMember, Json.ofText, List.lookup_cons, hname, hid,
        hid', Value.ofList_points]
  | some entityId =>
    constructor <;>
      simp [toJson, Json.memberText?, Json.hasMember, Json.ofText, List.lookup_cons, hname, hid,
        hid', Value.ofList_points]

theorem isLegible_toJson
    (st : Stub) :
  st.toJson.isLegible = true
  := by
  obtain ⟨id, name, entityId⟩ := st
  have htext : ∀ s, (Json.ofText s).isLegible = true := by
    intro s
    rw [Json.ofText, Json.isLegible, Json.all_isCharacter_points]
  cases entityId with
  | none =>
    simp only [toJson, List.append_nil, Json.isLegible, Json.isLegible.members, htext,
      List.map_cons, List.map_nil, Json.all_isCharacter_points, Bool.and_self, Bool.and_true]
    decide
  | some entityId =>
    simp only [toJson, List.cons_append, List.nil_append, Json.isLegible, Json.isLegible.members,
      List.map_cons, List.map_nil, htext, Json.all_isCharacter_points, Bool.and_self, Bool.and_true]
    decide

/-- The file for a list of stubs is read as the array of what they are written as. -/
theorem parse_fileText
    (stubs : List Stub) :
  ∃ items, Json.parse (fileText stubs).toList = .ok (.array items)
    ∧ List.Forall₂ IsWrittenAs stubs items
  := by
  use stubs.map toJson
  constructor
  · rw [fileText, String.toList_ofList]
    apply Json.parse_render
    rw [Json.isLegible]
    induction stubs with
    | nil => rfl
    | cons st stubs ih =>
      rw [List.map_cons, Json.isLegible.items, isLegible_toJson, ih, Bool.and_self]
  · rw [List.forall₂_map_right_iff, List.forall₂_same]
    intro st _
    apply isWrittenAs_toJson

end Stub

/-! ### Recorded stubs and their files -/

namespace Recorder

variable {r : Recorder} {folder : Path} {d : Disk}

/-- A stub is recorded behind the stubs of its type. -/
theorem stubsOf_record
    (r : Recorder) (type other : String) (st : Stub) :
  (r.record type st).stubsOf other
    = if type = other then r.stubsOf other ++ [st] else r.stubsOf other
  := by
  rw [stubsOf, record, Table.find?_insert]
  split
  · rename_i h
    rw [Option.getD_some, h]
  · rfl

/-- No type is recorded without a stub. -/
def IsFilled (r : Recorder) : Prop :=
  ∀ type, r.stubs.find? type ≠ some []

theorem IsFilled.record
    (h : r.IsFilled) (type : String) (st : Stub) :
  (r.record type st).IsFilled
  := by
  intro other
  rw [Recorder.record, Table.find?_insert]
  split
  · simp
  · apply h other

/-- The types of a recorder are those that it has stubs for. -/
theorem IsFilled.mem_entries_iff
    (h : r.IsFilled) {type : String} {stubs : List Stub} :
  (type, stubs) ∈ r.stubs.entries ↔ stubs = r.stubsOf type ∧ stubs ≠ []
  := by
  rw [← Table.find?_eq_some_iff, stubsOf]
  constructor
  · intro hfind
    rw [hfind]
    use rfl
    rintro rfl
    exact h type hfind
  · rintro ⟨rfl, hne⟩
    cases hfind : r.stubs.find? type with
    | none =>
      rw [hfind] at hne
      exact absurd rfl hne
    | some stubs => rfl

/-- A disk with the file for the stubs of a type, or as it was if that cannot be written. -/
def putFile (folder : Path) (d : Disk) (entry : String × List Stub) : Disk :=
  ((d.write (typePath folder entry.1) (.text (Stub.fileText entry.2))).toOption).getD d

/-- The files for the types are put one after another. -/
theorem disk_writeTypes
    {entries : List (String × List Stub)} {paths : List Path}
    (h : (writeTypes folder d entries).result = .ok paths) :
  (writeTypes folder d entries).disk = entries.foldl (putFile folder) d
  := by
  induction entries generalizing d paths with
  | nil => rfl
  | cons entry rest ih =>
    obtain ⟨type, stubs⟩ := entry
    rw [List.foldl_cons, putFile]
    rw [writeTypes] at h ⊢
    dsimp only at h ⊢
    cases hwrite : d.write (typePath folder type) (.text (Stub.fileText stubs)) with
    | ok d' =>
      rw [hwrite] at h
      dsimp only at h
      cases hrest : (writeTypes folder d' rest).result with
      | error fault =>
        rw [hrest] at h
        cases h
      | ok others => apply ih hrest
    | error fault =>
      rw [hwrite] at h
      dsimp only at h ⊢
      split at h
      · cases h
      · apply ih h

/-- If the folder can be had, then the file for each type is put into it, in the order in which
the types were first recorded. -/
theorem disk_writeAll
    (hfolder : r.folder = some folder) (hoffers : d.Offers folder) {paths : List Path}
    (h : (r.writeAll d).result = .ok paths) :
  (r.writeAll d).disk = r.stubs.entries.foldl (putFile folder) (d.ensureFolder folder).1
  := by
  rw [Disk.Offers] at hoffers
  rw [writeAll, hfolder] at h ⊢
  dsimp only at h ⊢
  cases hensure : d.ensureFolder folder with
  | mk d' fault =>
    rw [hensure] at hoffers h
    dsimp only at hoffers
    subst hoffers
    apply disk_writeTypes h

end Recorder

/-! ### The stub of a deployed config -/

/-- Whether a kind of request sends a generated identity along. -/
def Variant.isGenerated : Variant → Bool
  | .settings => false
  | .classicUnique => false
  | .classicNonUnique => true
  | .entity => true
  | .automation => true

/-- A stub has the id and the name that others read of what a config left behind, and the
generated identity of the config exactly if that was sent along. -/
structure Outcome.IsMirroredBy (o : Outcome) (st : Stub) : Prop where
  id : o.text? idProperty = some st.id
  name : o.text? nameParameter = some st.name
  entityId : ∃ variant, o.variant = some variant
    ∧ st.entityId = if variant.isGenerated then some (Identity.uuid o.coordinate) else none

namespace Config

variable {c : Config} {conditions : Conditions} {registry : Registry} {names : NameIndex}
  {plan : Plan}

/-- The name in a stub is the text of the name that others read. -/
theorem Passes.text?_nameValue
    (h : c.Passes conditions registry names plan) (remote : RemoteEntity) :
  (c.nameValue plan remote).text? = some (c.stub plan remote).name
  := by
  rw [nameValue, stub, nonempty?]
  split
  · rfl
  · rename_i hremote
    have hnone : nonempty? "" = none := rfl
    rw [not_not] at hremote
    rw [if_pos hremote, Option.getD_none, entityName, firstOf, hremote, hnone]
    split
    · rename_i name hname
      obtain ⟨own, hown, hnonempty⟩ := Option.bind_eq_some_iff.mp hname
      rw [hname]
      obtain rfl : own = name := by
        rw [nonempty?] at hnonempty
        split at hnonempty
        · cases hnonempty
        · cases hnonempty
          rfl
      have hnamed := h.name_eq hown
      rw [Config.name] at hnamed
      split at hnamed
      · cases hnamed
      · rename_i value hvalue
        split at hnamed
        · rename_i text htext
          cases hnamed
          rw [hvalue, Option.getD_some, htext]
          rfl
        · cases hnamed
    · rename_i hname
      rw [hname]
      rfl

/-- The stub of a deployed config mirrors it. -/
theorem Passes.isMirroredBy_stub
    (h : c.Passes conditions registry names plan) (environment : String)
    (remote : RemoteEntity) :
  (c.deployedOutcome environment plan remote).IsMirroredBy (c.stub plan remote)
  := by
  constructor
  · apply c.remoteId?_deployedOutcome environment plan remote
  · rw [← h.text?_nameValue remote]
    simp [Outcome.text?, deployedOutcome, deployedEntity, Table.find?_insert]
  · use plan.route.variant, rfl
    rw [stub]
    cases plan.route <;> rfl

/-! ### What a deployment records -/

section

variable {mode : Mode σ} {environment : String} {b : Books} {s : Session σ} {d : Deployed σ}
  {o : Outcome} {r : Recorder} {folder : Path}

/-- A deployment that has an outcome records a stub and writes the payload, if the config is
deployed and pushed, and otherwise it leaves the recorder and the disk as they are. -/
theorem Course.kept
    (hcourse : c.Course conditions mode environment b s d) (h : d.result = .ok o)
    (hr : s.recorder = some r) (hfolder : r.folder = some folder) :
  ((mode = .validate ∨ o.state ≠ .deployed ∧ o.remoteId? = none)
      ∧ d.session.recorder = some r ∧ d.session.disk = s.disk)
    ∨ mode ≠ .validate ∧ ∃ plan remote, c.Passes conditions b.registry b.names plan
      ∧ o = c.deployedOutcome environment plan remote
      ∧ d.session.recorder = some (r.record c.coordinate.type (c.stub plan remote))
      ∧ d.session.disk = (r.writePayload s.disk c.coordinate.type remote.id plan.payload).disk
  := by
  cases hcourse with
  | fault | unwritten => cases h
  | skipped | failed | refused =>
    cases h
    refine .inl ⟨.inr ⟨?_, rfl⟩, hr, rfl⟩
    rintro ⟨⟩
  | deployed passes carried kept =>
    rename_i plan remote state s'
    cases h
    have hkeeping := Session.keeping_keepStub
      { s.tell (c.notices conditions b.registry) with client := state } mode c plan remote
    rw [kept] at hkeeping
    cases hkeeping with
    | idle idle =>
      rcases idle with rfl | hnone
      · exact .inl ⟨.inl rfl, hr, rfl⟩
      · have hsome : s.folder? = some folder := by
          rw [Session.folder?, hr, Option.bind_some, hfolder]
        cases hsome.symm.trans hnone
    | recorded push recorder =>
      right
      rw [push]
      cases hr.symm.trans recorder
      refine ⟨?_, plan, remote, passes, rfl, rfl, rfl⟩
      rintro ⟨⟩

/-- A deployment that has an outcome records a stub that mirrors it, if the config is deployed
and pushed, and nothing otherwise. -/
theorem Course.recorded
    (hcourse : c.Course conditions mode environment b s d) (h : d.result = .ok o)
    (hr : s.recorder = some r) (hfolder : r.folder = some folder) :
  ((mode = .validate ∨ o.state ≠ .deployed) ∧ d.session.recorder = some r)
    ∨ mode ≠ .validate ∧ o.state = .deployed ∧ ∃ st, o.IsMirroredBy st
      ∧ d.session.recorder = some (r.record c.coordinate.type st)
  := by
  rcases hcourse.kept h hr hfolder with ⟨hidle, hsame, -⟩
    | ⟨hmode, plan, remote, hpasses, rfl, hrecorded, -⟩
  · exact .inl ⟨hidle.imp_right And.left, hsame⟩
  · exact .inr ⟨hmode, rfl, c.stub plan remote, hpasses.isMirroredBy_stub environment remote,
      hrecorded⟩

end

end Config

end Rollout
