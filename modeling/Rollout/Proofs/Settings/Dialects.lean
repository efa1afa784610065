import Mathlib.Tactic.Use
import Rollout.Proofs.Results
import Rollout.Settings.Yaml

/-!
# What is asked of a dialect

Whatever the language of settings files is, its validation reads the fields of settings and nothing
else, it accepts values of the types of the fields, and it keeps them as they are.  The dialect of
the program does all this.
-/

namespace Rollout

namespace Settings

/-- The names of the fields. -/
def fields : List String :=
  ["dry_run", "continue_on_error", "log_level", "stubs_folder", "features"]

namespace Dialect

variable {V φ ε : Type} (d : Dialect V φ ε)

/-- Nothing but what a map holds under the fields is validated. -/
def ReadsFields : Prop :=
  ∀ entries entries', (∀ field ∈ fields, d.find? field entries = d.find? field entries') →
    d.validate entries = d.validate entries'

/-- Settings hold what is under the fields that variables take precedence over, if it is of their
types. -/
structure Keeps (entries : List (V × V)) (s : Settings) : Prop where
  dryRun : ∀ b, d.find? "dry_run" entries = some (d.ofBool b) → s.dryRun = b
  continueOnError :
    ∀ b, d.find? "continue_on_error" entries = some (d.ofBool b) → s.continueOnError = b
  logLevel : ∀ t, d.find? "log_level" entries = some (d.ofText t) → s.logLevel = t
  stubsFolder : ∀ t, d.find? "stubs_folder" entries = some (d.ofText t) → s.stubsFolder = some t
  noStubsFolder : d.find? "stubs_folder" entries = none → s.stubsFolder = none

/-- Values of the types of their fields are kept. -/
def KeepsValues : Prop :=
  ∀ entries s, d.validate entries = .ok s → d.Keeps entries s

/-- A piece of data is of the type of a field that a variable takes precedence over. -/
def IsTyped (field : String) (v : V) : Prop :=
  (field ∈ switches.map Prod.fst ∧ ∃ b, v = d.ofBool b)
    ∨ field ∈ textFields.map Prod.fst ∧ ∃ t, v = d.ofText t

/-- A map is accepted that holds nothing under the fields but values of their types. -/
def AcceptsTyped : Prop :=
  ∀ entries, (∀ field ∈ fields, ∀ v, d.find? field entries = some v → d.IsTyped field v) →
    ∃ s, d.validate entries = .ok s

end Dialect

end Settings

/-! ### The dialect of the program -/

namespace Schema

variable {α β : Type} {name : String} {entries entries' : List (Document × Document)}

/-- A function and what it is applied to are both read, or neither is of use. -/
theorem both_eq_ok_iff
    {f : Reading (α → β)} {x : Reading α} {b : β} :
  both f x = .ok b ↔ ∃ g a, f = .ok g ∧ x = .ok a ∧ g a = b
  := by
  cases f with
  | error is => simp [both]
  | ok g =>
    cases x with
    | error is => simp [both]
    | ok a => simp [both]

theorem fieldOr_congr
    (default : α) (read : Document → Except Mismatch α)
    (h : Document.entry? name entries = Document.entry? name entries') :
  fieldOr default read name entries = fieldOr default read name entries'
  := by
  rw [fieldOr, fieldOr, h]

theorem fieldOr_of_eq_some
    {default a : α} {read : Document → Except Mismatch α} {v : Document}
    (h : Document.entry? name entries = some v) (hread : read v = .ok a) :
  fieldOr default read name entries = .ok a
  := by
  rw [fieldOr, h]
  dsimp only
  rw [hread]
  rfl

theorem fieldOr_of_eq_none
    {default : α} {read : Document → Except Mismatch α}
    (h : Document.entry? name entries = none) :
  fieldOr default read name entries = .ok default
  := by
  rw [fieldOr, h]

theorem mapField_congr
    (read : Document → Except Mismatch α)
    (h : Document.entry? name entries = Document.entry? name entries') :
  mapField read name entries = mapField read name entries'
  := by
  rw [mapField, mapField, h]

end Schema

namespace Settings

open Schema

variable {entries entries' : List (Document × Document)}

/-- Settings are read field by field. -/
theorem ofEntries_eq_ok_iff
    {s : Settings} :
  ofEntries entries = .ok s
    ↔ fieldOr false truth "dry_run" entries = .ok s.dryRun
      ∧ fieldOr true truth "continue_on_error" entries = .ok s.continueOnError
      ∧ fieldOr "WARNING" text "log_level" entries = .ok s.logLevel
      ∧ fieldOr none optionalText "stubs_folder" entries = .ok s.stubsFolder
      ∧ mapField truth "features" entries = .ok s.features
  := by
  simp only [ofEntries, both_eq_ok_iff]
  constructor
  · rintro ⟨_, features, ⟨_, folder, ⟨_, level, ⟨_, go, ⟨_, dry, ⟨⟩, hdry, rfl⟩, hgo, rfl⟩, hlevel,
      rfl⟩, hfolder, rfl⟩, hfeatures, rfl⟩
    exact ⟨hdry, hgo, hlevel, hfolder, hfeatures⟩
  · rintro ⟨hdry, hgo, hlevel, hfolder, hfeatures⟩
    exact ⟨_, _, ⟨_, _, ⟨_, _, ⟨_, _, ⟨_, _, rfl, hdry, rfl⟩, hgo, rfl⟩, hlevel, rfl⟩, hfolder,
      rfl⟩, hfeatures, rfl⟩

namespace Dialect

theorem find?_yaml
    (name : String) (entries : List (Document × Document)) :
  yaml.find? name entries = Document.entry? name entries
  := by
  induction entries with
  | nil => rfl
  | cons e rest ih =>
    obtain ⟨k, v⟩ := e
    rw [find?, ih]
    cases k with
    | text key => simp only [yaml, Document.text?, Document.entry?, Option.some.injEq]
    | null | bool | int | float | date | moment | list | map =>
      simp only [yaml, Document.text?, Document.entry?, reduceCtorEq, if_false]

theorem readsFields_yaml : yaml.ReadsFields
  := by
  intro entries entries' h
  simp only [fields, List.mem_cons, List.not_mem_nil, or_false, forall_eq_or_imp, forall_eq,
    find?_yaml] at h
  obtain ⟨hdryRun, hcontinue, hlevel, hfolder, hfeatures⟩ := h
  change ofEntries entries = ofEntries entries'
  rw [ofEntries, ofEntries, fieldOr_congr _ _ hdryRun, fieldOr_congr _ _ hcontinue,
    fieldOr_congr _ _ hlevel, fieldOr_congr _ _ hfolder, mapField_congr _ hfeatures]

/-- What is read of a field is what it holds. -/
theorem eq_of_fieldOr
    {α : Type} {default a b : α} {read : Document → Except Mismatch α} {name : String}
    {v : Document} (hread : read v = .ok a) (h : fieldOr default read name entries = .ok b)
    (hv : yaml.find? name entries = some v) :
  b = a
  := by
  rw [find?_yaml] at hv
  rw [fieldOr_of_eq_some hv hread] at h
  exact (Except.ok.inj h).symm

theorem keepsValues_yaml : yaml.KeepsValues
  := by
  intro entries s h
  obtain ⟨hdry, hgo, hlevel, hfolder, -⟩ := ofEntries_eq_ok_iff.mp h
  constructor
  · intro b
    exact eq_of_fieldOr rfl hdry
  · intro b
    exact eq_of_fieldOr rfl hgo
  · intro t
    exact eq_of_fieldOr rfl hlevel
  · intro t
    exact eq_of_fieldOr rfl hfolder
  · intro hnone
    rw [find?_yaml] at hnone
    rw [fieldOr_of_eq_none hnone] at hfolder
    exact (Except.ok.inj hfolder).symm

/-- A field that holds nothing but values that are read is read. -/
theorem exists_fieldOr
    {α : Type} (default : α) {read : Document → Except Mismatch α} {name : String}
    (h : ∀ v, yaml.find? name entries = some v → ∃ a, read v = .ok a) :
  ∃ a, fieldOr default read name entries = .ok a
  := by
  cases hv : Document.entry? name entries with
  | none => exact ⟨default, fieldOr_of_eq_none hv⟩
  | some v =>
    obtain ⟨a, ha⟩ := h v (by rw [find?_yaml, hv])
    exact ⟨a, fieldOr_of_eq_some hv ha⟩

theorem acceptsTyped_yaml : yaml.AcceptsTyped
  := by
  intro entries h
  have hswitch : ∀ field ∈ fields, field ∉ textFields.map Prod.fst →
      ∀ v, yaml.find? field entries = some v → ∃ b, truth v = .ok b := by
    intro field hfield hnot v hv
    rcases h field hfield v hv with ⟨-, b, rfl⟩ | ⟨htext, -⟩
    · exact ⟨b, rfl⟩
    · exact absurd htext hnot
  have htext : ∀ field ∈ fields, field ∉ switches.map Prod.fst →
      ∀ v, yaml.find? field entries = some v → ∃ t, v = .text t := by
    intro field hfield hnot v hv
    rcases h field hfield v hv with ⟨hswitch, -⟩ | ⟨-, t, rfl⟩
    · exact absurd hswitch hnot
    · exact ⟨t, rfl⟩
  obtain ⟨dry, hdry⟩ := exists_fieldOr false (hswitch "dry_run" (by decide) (by decide))
  obtain ⟨go, hgo⟩ := exists_fieldOr true (hswitch "continue_on_error" (by decide) (by decide))
  have hlevel : ∃ level, fieldOr "WARNING" text "log_level" entries = .ok level := by
    apply exists_fieldOr
    intro v hv
    obtain ⟨t, rfl⟩ := htext "log_level" (by decide) (by decide) v hv
    exact ⟨t, rfl⟩
  have hfolder : ∃ folder, fieldOr none optionalText "stubs_folder" entries = .ok folder := by
    apply exists_fieldOr
    intro v hv
    obtain ⟨t, rfl⟩ := htext "stubs_folder" (by decide) (by decide) v hv
    exact ⟨some t, rfl⟩
  have hfeatures : Document.entry? "features" entries = none := by
    rw [← find?_yaml, Option.eq_none_iff_forall_ne_some]
    intro v hv
    rcases h "features" (by decide) v hv with ⟨hswitch, -⟩ | ⟨htext, -⟩
    · exact absurd hswitch (by decide)
    · exact absurd htext (by decide)
  obtain ⟨level, hlevel⟩ := hlevel
  obtain ⟨folder, hfolder⟩ := hfolder
  use ⟨dry, go, level, folder, .empty⟩
  apply ofEntries_eq_ok_iff.mpr
  use hdry, hgo, hlevel, hfolder
  rw [mapField, hfeatures]

end Dialect

end Settings

end Rollout
