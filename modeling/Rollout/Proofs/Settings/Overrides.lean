import Mathlib.Tactic.Use
import Rollout.Proofs.Settings.Dialects
import Rollout.Proofs.Settings.Loading

/-!
# Variables over settings files

A variable masks the field that it takes precedence over.  Whatever a settings file holds there,
whether it fits or not, neither the settings nor the problem with them depends on it, and nothing
depends on entries that are no fields.  A variable for a switch that is none is a problem before
the file is looked at.
-/

namespace Rollout

namespace Settings

variable {V φ ε : Type} {d : Dialect V φ ε} {vars : Variables} {entries entries' : List (V × V)}

/-! ### What the variables put into a map -/

/-- The entries with values put under texts, one after another. -/
def put (d : Dialect V φ ε) (values : List (String × V)) (entries : List (V × V)) : List (V × V) :=
  values.foldl (fun entries e => d.setEntry e.1 e.2 entries) entries

/-- What is put under other texts alone leaves a text as it is. -/
theorem find?_put_of_notMem
    {values : List (String × V)} {field : String} (h : field ∉ values.map Prod.fst)
    (entries : List (V × V)) :
  d.find? field (put d values entries) = d.find? field entries
  := by
  induction values generalizing entries with
  | nil => rfl
  | cons e rest ih =>
    rw [List.map_cons, List.mem_cons, not_or] at h
    have hrest := ih h.2 (d.setEntry e.1 e.2 entries)
    rw [Dialect.find?_setEntry, if_neg (Ne.symm h.1)] at hrest
    apply hrest

/-- What is put under a text is there, whatever was there before. -/
theorem find?_put_of_mem
    {values : List (String × V)} (hnodup : (values.map Prod.fst).Nodup) {field : String} {v : V}
    (h : (field, v) ∈ values) (entries : List (V × V)) :
  d.find? field (put d values entries) = some v
  := by
  induction values generalizing entries with
  | nil => cases h
  | cons e rest ih =>
    rw [List.map_cons, List.nodup_cons] at hnodup
    rcases List.mem_cons.mp h with rfl | hrest
    · have hput := find?_put_of_notMem (d := d) hnodup.1 (d.setEntry field v entries)
      rw [Dialect.find?_setEntry, if_pos rfl] at hput
      apply hput
    · apply ih hnodup.2 hrest

/-- The truth value that a variable stands for. -/
def switchValue? (d : Dialect V φ ε) (vars : Variables) (name : String) : Option V :=
  ((vars.find? name).bind Text.switch?).map d.ofBool

/-- The text that a variable holds, unless it is empty. -/
def textValue? (d : Dialect V φ ε) (vars : Variables) (name : String) : Option V :=
  ((vars.find? name).bind nonempty?).map d.ofText

/-- The values that variables give to the fields they take precedence over. -/
def valuesOf (value? : String → Option V) (list : List (String × String)) : List (String × V) :=
  list.filterMap (fun e => (value? e.2).map (fun v => (e.1, v)))

/-- What the variables put into every settings file. -/
def given (d : Dialect V φ ε) (vars : Variables) : List (String × V) :=
  valuesOf (switchValue? d vars) switches ++ valuesOf (textValue? d vars) textFields

section

variable {value? : String → Option V} {list : List (String × String)} {field name : String}
  {v : V}

theorem mem_valuesOf_iff :
  (field, v) ∈ valuesOf value? list ↔ ∃ name, (field, name) ∈ list ∧ value? name = some v
  := by
  simp only [valuesOf, List.mem_filterMap, Option.map_eq_some_iff]
  constructor
  · rintro ⟨⟨field, name⟩, hmem, v, hv, ⟨⟩⟩
    exact ⟨name, hmem, hv⟩
  · rintro ⟨name, hmem, hv⟩
    exact ⟨(field, name), hmem, v, hv, rfl⟩

theorem valuesOf_cons_none
    (h : value? name = none) :
  valuesOf value? ((field, name) :: list) = valuesOf value? list
  := by
  rw [valuesOf, List.filterMap_cons, h]
  rfl

theorem valuesOf_cons_some
    (h : value? name = some v) :
  valuesOf value? ((field, name) :: list) = (field, v) :: valuesOf value? list
  := by
  rw [valuesOf, List.filterMap_cons, h]
  rfl

theorem textValue?_eq_some_iff :
  textValue? d vars name = some v
    ↔ ∃ value, vars.find? name = some value ∧ value ≠ "" ∧ v = d.ofText value
  := by
  simp only [textValue?, Option.map_eq_some_iff, Option.bind_eq_some_iff, nonempty?]
  constructor
  · rintro ⟨s, ⟨value, hvalue, hs⟩, rfl⟩
    split at hs
    · cases hs
    · rename_i hne
      cases hs
      exact ⟨s, hvalue, hne, rfl⟩
  · rintro ⟨value, hvalue, hne, rfl⟩
    exact ⟨value, ⟨value, hvalue, if_neg hne⟩, rfl⟩

theorem switchValue?_eq_some_iff :
  switchValue? d vars name = some v
    ↔ ∃ value b, vars.find? name = some value ∧ Text.switch? value = some b ∧ v = d.ofBool b
  := by
  simp only [switchValue?, Option.map_eq_some_iff, Option.bind_eq_some_iff]
  constructor
  · rintro ⟨b, ⟨value, hvalue, hb⟩, rfl⟩
    exact ⟨value, b, hvalue, hb, rfl⟩
  · rintro ⟨value, b, hvalue, hb, rfl⟩
    exact ⟨b, ⟨value, hvalue, hb⟩, rfl⟩

end

theorem mem_given_iff
    {field : String} {v : V} :
  (field, v) ∈ given d vars
    ↔ (∃ name, (field, name) ∈ switches ∧ switchValue? d vars name = some v)
      ∨ ∃ name, (field, name) ∈ textFields ∧ textValue? d vars name = some v
  := by
  rw [given, List.mem_append, mem_valuesOf_iff, mem_valuesOf_iff]

/-- No field is given two values. -/
theorem nodup_given
    (d : Dialect V φ ε) (vars : Variables) :
  ((given d vars).map Prod.fst).Nodup
  := by
  have hkeys : ∀ (value? : String → Option V) (list : List (String × String)),
      ((valuesOf value? list).map Prod.fst).Sublist (list.map Prod.fst) :=
    fun value? list => Table.keys_filterMap_sublist (fun _ name => value? name) list
  have hfields : (switches.map Prod.fst ++ textFields.map Prod.fst).Nodup := by decide
  rw [given, List.map_append]
  exact hfields.sublist ((hkeys _ switches).append (hkeys _ textFields))

/-! ### Overriding -/

/-- A variable for a switch is set to something else. -/
def IsBadSwitch (vars : Variables) (name value : String) : Prop :=
  vars.find? name = some value ∧ Text.switch? value = none

instance (vars : Variables) (name value : String) : Decidable (IsBadSwitch vars name value) :=
  inferInstanceAs (Decidable (_ ∧ _))

/-- The first variable for a switch that is none, with its value. -/
def badSwitch? (vars : Variables) (list : List (String × String)) : Option (String × String) :=
  list.findSome? (fun e => (vars.find? e.2).bind (fun value =>
    if IsBadSwitch vars e.2 value then some (e.2, value) else none))

theorem badSwitch?_eq_none_iff
    {list : List (String × String)} :
  badSwitch? vars list = none ↔ ∀ e ∈ list, ∀ value, ¬ IsBadSwitch vars e.2 value
  := by
  simp only [badSwitch?, List.findSome?_eq_none_iff, Option.bind_eq_none_iff, ite_eq_right_iff,
    reduceCtorEq, imp_false]
  constructor
  · intro h e he value hbad
    exact h e he value hbad.1 hbad
  · intro h e he value _
    exact h e he value

theorem exists_badSwitch
    {list : List (String × String)} {bad : String × String}
    (h : badSwitch? vars list = some bad) :
  ∃ e ∈ list, ∃ value, IsBadSwitch vars e.2 value ∧ bad = (e.2, value)
  := by
  obtain ⟨e, he, hp⟩ := List.exists_of_findSome?_eq_some h
  obtain ⟨value, -, hif⟩ := Option.bind_eq_some_iff.mp hp
  split at hif
  · rename_i hbad
    cases hif
    exact ⟨e, he, value, hbad, rfl⟩
  · cases hif

/-- A variable for a switch that is none is a problem whatever the entries are, and otherwise
the switches are put in. -/
theorem overrideSwitches_eq
    (d : Dialect V φ ε) (vars : Variables) (list : List (String × String))
    (entries : List (V × V)) :
  overrideSwitches d vars list entries
    = (badSwitch? vars list).elim (.ok (put d (valuesOf (switchValue? d vars) list) entries))
      (fun bad => .error (.badSwitch bad.1 bad.2))
  := by
  induction list generalizing entries with
  | nil => rfl
  | cons e rest ih =>
    obtain ⟨field, name⟩ := e
    rw [badSwitch?, List.findSome?_cons, ← badSwitch?, overrideSwitches]
    cases hvalue : vars.find? name with
    | none =>
      rw [valuesOf_cons_none (by rw [switchValue?, hvalue]; rfl)]
      apply ih
    | some value =>
      simp only [Option.bind_some, IsBadSwitch, hvalue, true_and]
      cases hb : Text.switch? value with
      | none => rfl
      | some b =>
        rw [valuesOf_cons_some (switchValue?_eq_some_iff.mpr ⟨value, b, hvalue, hb, rfl⟩)]
        apply ih

/-- The texts are put in. -/
theorem overrideTexts_eq
    (d : Dialect V φ ε) (vars : Variables) (entries : List (V × V)) :
  overrideTexts d vars entries = put d (valuesOf (textValue? d vars) textFields) entries
  := by
  rw [overrideTexts]
  generalize textFields = list
  induction list generalizing entries with
  | nil => rfl
  | cons e rest ih =>
    obtain ⟨field, name⟩ := e
    rw [List.foldl_cons, ih]
    dsimp only
    cases hvalue : (vars.find? name).bind nonempty? with
    | none => rw [valuesOf_cons_none (by rw [textValue?, hvalue]; rfl)]
    | some value =>
      rw [valuesOf_cons_some (by rw [textValue?, hvalue]; rfl)]
      rfl

/-- A variable for a switch that is none is a problem whatever a settings file holds, and
otherwise the settings are read from what it holds with the values of the variables put in. -/
theorem settle_eq
    (d : Dialect V φ ε) (vars : Variables) (entries : List (V × V)) :
  settle d vars entries
    = (badSwitch? vars switches).elim
      ((d.validate (put d (given d vars) entries)).mapError .invalid)
      (fun bad => .error (.badSwitch bad.1 bad.2))
  := by
  rw [settle, overrideSwitches_eq]
  cases badSwitch? vars switches with
  | some p => rfl
  | none =>
    dsimp only [Option.elim]
    rw [overrideTexts_eq, given, put, put, put, List.foldl_append]

/-! ### Masking -/

/-- A variable takes precedence over a field: one for a switch that is set, or one for a text
that holds more than the empty text. -/
def IsMasked (vars : Variables) (field : String) : Prop :=
  (∃ name, (field, name) ∈ switches ∧ vars.contains name = true)
    ∨ ∃ name, (field, name) ∈ textFields ∧ ∃ value, vars.find? name = some value ∧ value ≠ ""

/-- Two lists of entries hold the same under every field that no variable masks. -/
def AgreeUnmasked (d : Dialect V φ ε) (vars : Variables) (entries entries' : List (V × V)) :
    Prop :=
  ∀ field ∈ fields, ¬ IsMasked vars field → d.find? field entries = d.find? field entries'

/-- Settings hold what the variables say. -/
structure Obeys (vars : Variables) (s : Settings) : Prop where
  dryRun : ∀ value, vars.find? "CONFDEPLOY_DRY_RUN" = some value →
    Text.switch? value = some s.dryRun
  continueOnError : ∀ value, vars.find? "CONFDEPLOY_CONTINUE_ON_ERROR" = some value →
    Text.switch? value = some s.continueOnError
  logLevel : ∀ value, vars.find? "CONFDEPLOY_LOG_LEVEL" = some value → value ≠ "" →
    s.logLevel = value
  stubsFolder : ∀ value, vars.find? "CONFDEPLOY_STUBS_FOLDER" = some value → value ≠ "" →
    s.stubsFolder = some value

/-- Unless it is bad, a variable for a switch gives its field a truth value. -/
theorem mem_given_of_switch
    (d : Dialect V φ ε) (hgood : badSwitch? vars switches = none) {field name value : String}
    (hmem : (field, name) ∈ switches) (hvalue : vars.find? name = some value) :
  ∃ b, Text.switch? value = some b ∧ (field, d.ofBool b) ∈ given d vars
  := by
  have hnot := badSwitch?_eq_none_iff.mp hgood _ hmem value
  cases hb : Text.switch? value with
  | none => exact absurd ⟨hvalue, hb⟩ hnot
  | some b =>
    have hv : switchValue? d vars name = some (d.ofBool b) :=
      switchValue?_eq_some_iff.mpr ⟨value, b, hvalue, hb, rfl⟩
    use b, rfl
    exact mem_given_iff.mpr (.inl ⟨name, hmem, hv⟩)

/-- Unless it is empty, a variable for a text gives its field the text. -/
theorem mem_given_of_text
    (d : Dialect V φ ε) {field name value : String} (hmem : (field, name) ∈ textFields)
    (hvalue : vars.find? name = some value) (hne : value ≠ "") :
  (field, d.ofText value) ∈ given d vars
  := by
  have hv : textValue? d vars name = some (d.ofText value) :=
    textValue?_eq_some_iff.mpr ⟨value, hvalue, hne, rfl⟩
  exact mem_given_iff.mpr (.inr ⟨name, hmem, hv⟩)

/-- A masked field is given a value, if no variable for a switch is bad. -/
theorem mem_given_of_isMasked
    (d : Dialect V φ ε) (hgood : badSwitch? vars switches = none) {field : String}
    (h : IsMasked vars field) :
  field ∈ (given d vars).map Prod.fst
  := by
  rcases h with ⟨name, hmem, hset⟩ | ⟨name, hmem, value, hvalue, hne⟩
  · obtain ⟨value, hvalue⟩ := Option.isSome_iff_exists.mp hset
    obtain ⟨b, -, hb⟩ := mem_given_of_switch d hgood hmem hvalue
    exact List.mem_map_of_mem hb
  · exact List.mem_map_of_mem (mem_given_of_text d hmem hvalue hne)

/-- What is under masked fields, or under no fields, does not matter. -/
theorem settle_congr
    (hreads : d.ReadsFields) (h : AgreeUnmasked d vars entries entries') :
  settle d vars entries = settle d vars entries'
  := by
  rw [settle_eq, settle_eq]
  cases hgood : badSwitch? vars switches with
  | some p => rfl
  | none =>
    dsimp only [Option.elim]
    rw [hreads]
    intro field hfield
    by_cases hgiven : field ∈ (given d vars).map Prod.fst
    · obtain ⟨⟨_, v⟩, hv, rfl⟩ := List.mem_map.mp hgiven
      rw [find?_put_of_mem (nodup_given d vars) hv, find?_put_of_mem (nodup_given d vars) hv]
    · rw [find?_put_of_notMem hgiven, find?_put_of_notMem hgiven]
      apply h field hfield
      intro hmasked
      exact hgiven (mem_given_of_isMasked d hgood hmasked)

/-- Settings that are settled hold what the variables say. -/
theorem obeys_of_settle
    (hkeeps : d.KeepsValues) {s : Settings} (h : settle d vars entries = .ok s) :
  Obeys vars s
  := by
  rw [settle_eq] at h
  cases hgood : badSwitch? vars switches with
  | some p =>
    rw [hgood] at h
    cases h
  | none =>
    rw [hgood] at h
    have hread : d.validate (put d (given d vars) entries) = .ok s := mapError_eq_ok_iff.mp h
    have hkept := hkeeps _ _ hread
    have hput : ∀ {field v}, (field, v) ∈ given d vars →
        d.find? field (put d (given d vars) entries) = some v :=
      fun hv => find?_put_of_mem (nodup_given d vars) hv entries
    constructor
    · intro value hvalue
      obtain ⟨b, hb, hmem⟩ := mem_given_of_switch d hgood (List.Mem.head _) hvalue
      rw [hb, hkept.dryRun b (hput hmem)]
    · intro value hvalue
      obtain ⟨b, hb, hmem⟩ := mem_given_of_switch d hgood (.tail _ (.head _)) hvalue
      rw [hb, hkept.continueOnError b (hput hmem)]
    · intro value hvalue hne
      exact hkept.logLevel value (hput (mem_given_of_text d (List.Mem.head _) hvalue hne))
    · intro value hvalue hne
      exact hkept.stubsFolder value (hput (mem_given_of_text d (.tail _ (.head _)) hvalue hne))

/-- Settings are refused for a variable exactly if a variable for a switch is none. -/
theorem settle_eq_badSwitch_iff :
  (∃ name value, settle d vars entries = .error (.badSwitch name value))
    ↔ ∃ e ∈ switches, ∃ value, IsBadSwitch vars e.2 value
  := by
  rw [settle_eq]
  cases hgood : badSwitch? vars switches with
  | some p =>
    obtain ⟨e, he, value, hbad, rfl⟩ := exists_badSwitch hgood
    constructor
    · intro _
      exact ⟨e, he, value, hbad⟩
    · intro _
      exact ⟨e.2, value, rfl⟩
  | none =>
    constructor
    · rintro ⟨name, value, h⟩
      obtain ⟨issues, -, hinvalid⟩ := mapError_eq_error_iff.mp h
      cases hinvalid
    · rintro ⟨e, he, value, hbad⟩
      exact absurd hbad (badSwitch?_eq_none_iff.mp hgood e he value)

/-! ### Loading -/

/-- The entries of the settings file: of the one that is named or else of the nearest, and none
if there is no file. -/
def AreRead (d : Dialect V φ ε) (disk : Disk) (path? : Option Path) (entries : List (V × V)) :
    Prop :=
  (locate? disk path? = .ok none ∧ entries = [])
    ∨ ∃ path, locate? disk path? = .ok (some path) ∧ readFile d disk path = .ok entries

/-- Settings are settled from the entries of the settings file. -/
theorem load_of_areRead
    {disk : Disk} {path? : Option Path} (h : AreRead d disk path? entries) :
  load d vars disk path? = (settle d vars entries).mapError .problem
  := by
  rw [load]
  rcases h with ⟨hnone, rfl⟩ | ⟨path, hfound, hread⟩
  · rw [hnone]
  · rw [hfound]
    dsimp only
    rw [hread]

/-- Variables mask the settings file, in any dialect that validates the fields alone and keeps
values of their types.  Two files that agree on the fields that no variable masks, whatever they
hold elsewhere, lead to the same settings or to the same problem.  The settings hold what the
variables say, and settings are refused for a variable exactly if a variable for a switch is
none. -/
theorem load_eq_of_agreeUnmasked
    (hreads : d.ReadsFields) (hkeeps : d.KeepsValues) {disk disk' : Disk}
    {path? path?' : Option Path} (hread : AreRead d disk path? entries)
    (hread' : AreRead d disk' path?' entries') (hagree : AgreeUnmasked d vars entries entries') :
  load d vars disk path? = load d vars disk' path?'
    ∧ (∀ s, load d vars disk path? = .ok s → Obeys vars s)
    ∧ ((∃ name value, load d vars disk path? = .error (.problem (.badSwitch name value)))
      ↔ ∃ e ∈ switches, ∃ value, IsBadSwitch vars e.2 value)
  := by
  rw [load_of_areRead hread, load_of_areRead hread', settle_congr hreads hagree]
  use rfl
  constructor
  · intro s hs
    apply obeys_of_settle hkeeps (mapError_eq_ok_iff.mp hs)
  · rw [← @settle_eq_badSwitch_iff _ _ _ d vars entries']
    simp [mapError_eq_error_iff]

end Settings

/-- Which of the fields are there. -/
def Settings.present (entries : List (Document × Document)) : List Bool :=
  fields.map (fun field => Option.isSome <| Dialect.yaml.find? field entries)

namespace Sample

/-- Variables that mask a switch and a text. -/
def maskingVariables : Variables :=
  .ofList [("CONFDEPLOY_DRY_RUN", "yes"), ("CONFDEPLOY_LOG_LEVEL", "DEBUG")]

/-- A settings file whose switch is none, whose log level is no text and which has an entry that
is no field. -/
def maskedText : String :=
  "dry_run: maybe\nlog_level: [1]\ncolor: red\n"

/-- What is read of the settings file of a folder is read of the folder. -/
theorem areRead_bench
    {settings : Content} {entries : List (Document × Document)}
    (h : Settings.readFile .yaml (bench settings) settingsPath = .ok entries) :
  Settings.AreRead .yaml (bench settings) none entries
  := .inr ⟨settingsPath, rfl, h⟩

end Sample

/-- Under variables for both, a file that holds neither a switch nor a log level leads to the
same settings as one that is in order. -/
theorem Settings.load_eq_of_agreeUnmasked_maybe :
  load .yaml Sample.maskingVariables (Sample.bench (.text Sample.maskedText)) none
      = load .yaml Sample.maskingVariables (Sample.bench (.text "dry_run: true\n")) none
    ∧ ∃ s, load .yaml Sample.maskingVariables (Sample.bench (.text Sample.maskedText)) none = .ok s
      ∧ Obeys Sample.maskingVariables s
  := by
  obtain ⟨entries, hread, hpresent⟩ := exists_eq_ok (f := present)
    (x := readFile .yaml (Sample.bench (.text Sample.maskedText)) Sample.settingsPath)
    (b := [true, false, true, false, false]) (by decide +kernel)
  obtain ⟨entries', hread', hpresent'⟩ := exists_eq_ok (f := present)
    (x := readFile .yaml (Sample.bench (.text "dry_run: true\n")) Sample.settingsPath)
    (b := [true, false, false, false, false]) (by decide +kernel)
  simp only [present, fields, List.map_cons, List.map_nil, List.cons.injEq,
    Option.isSome_eq_false_iff, Option.isNone_iff_eq_none, and_true] at hpresent hpresent'
  have hagree : AgreeUnmasked .yaml Sample.maskingVariables entries entries' := by
    intro field hfield hnot
    simp only [fields, List.mem_cons, List.not_mem_nil, or_false] at hfield
    rcases hfield with rfl | rfl | rfl | rfl | rfl
    · exact absurd (.inl ⟨_, List.Mem.head _, rfl⟩) hnot
    · rw [hpresent.2.1, hpresent'.2.1]
    · exact absurd (.inr ⟨_, List.Mem.head _, "DEBUG", rfl, by decide⟩) hnot
    · rw [hpresent.2.2.2.1, hpresent'.2.2.2.1]
    · rw [hpresent.2.2.2.2, hpresent'.2.2.2.2]
  obtain ⟨hload, hobeys, -⟩ := load_eq_of_agreeUnmasked Dialect.readsFields_yaml
    Dialect.keepsValues_yaml (Sample.areRead_bench hread) (Sample.areRead_bench hread') hagree
  use hload
  obtain ⟨s, hs, -⟩ := exists_eq_ok (f := Settings.dryRun)
    (x := load .yaml Sample.maskingVariables (Sample.bench (.text Sample.maskedText)) none)
    (b := true) (by decide +kernel)
  exact ⟨s, hs, hobeys s hs⟩

end Rollout
