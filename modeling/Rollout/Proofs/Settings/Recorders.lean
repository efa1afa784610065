import Mathlib.Tactic.Use
import Rollout.Proofs.Files.Paths
import Rollout.Proofs.Settings.Overrides

/-!
# Two readings of one variable

The folder for stubs can be read off its variable directly, or off the settings.  The direct
reading drops the blanks at the two ends of the value, and the settings keep them.  Where there
are such blanks the two do not agree, and otherwise they do.
-/

namespace Rollout

/-! ### Blanks -/

namespace Text

/-- What is trimmed off is blank. -/
theorem exists_blanks
    (s : List Char) :
  ∃ before after, s = before ++ trimChars s ++ after
    ∧ (∀ c ∈ before, isBlank c = true) ∧ ∀ c ∈ after, isBlank c = true
  := by
  have htaken : ∀ (l : List Char), ∀ c ∈ l.takeWhile isBlank, isBlank c = true :=
    fun l => List.all_eq_true.mp List.all_takeWhile
  use s.takeWhile isBlank, ((s.dropWhile isBlank).reverse.takeWhile isBlank).reverse
  constructor
  · rw [trimChars, List.append_assoc, ← List.reverse_append, List.takeWhile_append_dropWhile,
      List.reverse_reverse, List.takeWhile_append_dropWhile]
  · use htaken s
    intro c hc
    exact htaken _ c (List.mem_reverse.mp hc)

/-- A text is trimmed if it has the same blanks as when it is trimmed. -/
theorem trim_eq_of_filter
    {s : String} (h : (trim s).toList.filter isBlank = s.toList.filter isBlank) :
  trim s = s
  := by
  obtain ⟨before, after, hs, hbefore, hafter⟩ := exists_blanks s.toList
  rw [← String.toList_inj, trim, String.toList_ofList]
  rw [trim, String.toList_ofList] at h
  have hlength := congrArg List.length h
  have hcount := congrArg (fun l => (List.filter isBlank l).length) hs
  simp only [List.filter_append, List.length_append] at hcount
  rw [List.filter_eq_self.mpr hbefore, List.filter_eq_self.mpr hafter] at hcount
  have hnone : before = [] := List.length_eq_zero_iff.mp (by omega)
  have hnone' : after = [] := List.length_eq_zero_iff.mp (by omega)
  rw [hnone, hnone', List.nil_append, List.append_nil] at hs
  exact hs.symm

end Text

/-- The paths of a text and of the trimmed text are the same only if nothing is trimmed. -/
theorem Path.ofText_trim_eq_iff
    {s : String} :
  ofText (Text.trim s) = ofText s ↔ Text.trim s = s
  := by
  constructor
  · intro h
    apply Text.trim_eq_of_filter
    have hkept := filter_ofText (p := Text.isBlank) (by decide) (by decide)
    rw [← hkept, ← hkept, h]
  · intro h
    rw [h]

/-! ### Settings without a file -/

namespace Settings

variable {V φ ε : Type} {d : Dialect V φ ε} {vars : Variables} {disk : Disk}

/-- Without a settings file a field holds what is given to it. -/
theorem find?_put_nil
    {field : String} {o : Option V} (h : ∀ v, (field, v) ∈ given d vars ↔ o = some v) :
  d.find? field (put d (given d vars) []) = o
  := by
  cases o with
  | some v => exact find?_put_of_mem (nodup_given d vars) ((h v).mpr rfl) []
  | none =>
    apply find?_put_of_notMem
    intro hmem
    obtain ⟨⟨_, v⟩, hv, rfl⟩ := List.mem_map.mp hmem
    cases (h v).mp hv

/-- What the variables give to a field is of its type. -/
theorem isTyped_of_mem_given
    {field : String} {v : V} (h : (field, v) ∈ given d vars) :
  d.IsTyped field v
  := by
  rcases mem_given_iff.mp h with ⟨name, hmem, hv⟩ | ⟨name, hmem, hv⟩
  · obtain ⟨value, b, -, -, rfl⟩ := switchValue?_eq_some_iff.mp hv
    exact .inl ⟨List.mem_map_of_mem hmem, b, rfl⟩
  · obtain ⟨value, -, -, rfl⟩ := textValue?_eq_some_iff.mp hv
    exact .inr ⟨List.mem_map_of_mem hmem, value, rfl⟩

/-- Without a settings file, all that is under the fields is of their types. -/
theorem isTyped_of_find?_put
    {field : String} {v : V} (h : d.find? field (put d (given d vars) []) = some v) :
  d.IsTyped field v
  := by
  by_cases hgiven : field ∈ (given d vars).map Prod.fst
  · obtain ⟨⟨_, w⟩, hw, rfl⟩ := List.mem_map.mp hgiven
    rw [find?_put_of_mem (nodup_given d vars) hw] at h
    cases h
    exact isTyped_of_mem_given hw
  · rw [find?_put_of_notMem hgiven] at h
    cases h

/-- Without a settings file, there are settings unless a variable for a switch is none, and their
folder for stubs is the value of its variable, unless that is empty. -/
theorem exists_load
    (hkeeps : d.KeepsValues) (haccepts : d.AcceptsTyped) (hfile : find? disk none = .ok none)
    (hgood : badSwitch? vars switches = none) :
  ∃ s, load d vars disk none = .ok s
    ∧ s.stubsFolder = (vars.find? Recorder.folderVariable).bind nonempty?
  := by
  obtain ⟨s, hs⟩ := haccepts (put d (given d vars) []) (fun _ _ _ => isTyped_of_find?_put)
  use s
  constructor
  · have hread : AreRead d disk none [] := .inl ⟨hfile, rfl⟩
    rw [load_of_areRead hread, settle_eq, hgood]
    dsimp only [Option.elim]
    rw [hs]
    rfl
  · have hkept := hkeeps _ _ hs
    have hfolder : d.find? "stubs_folder" (put d (given d vars) [])
        = textValue? d vars Recorder.folderVariable :=
      find?_put_nil (by simp [mem_given_iff, switches, textFields, Recorder.folderVariable])
    rw [textValue?] at hfolder
    cases hvalue : (vars.find? Recorder.folderVariable).bind nonempty? with
    | none =>
      rw [hvalue] at hfolder
      exact hkept.noStubsFolder hfolder
    | some folder =>
      rw [hvalue] at hfolder
      exact hkept.stubsFolder folder hfolder

/-- The recorder of settings whose folder for stubs is the value of the variable is enabled unless
the variable is empty, and its folder is the value as it is. -/
theorem folder_recorder
    {s : Settings} {value : String} (h : s.stubsFolder = nonempty? value) :
  s.recorder.folder = (nonempty? value).map Path.ofText
  := by
  rw [recorder, Recorder.ofFolder, stubsPath, h, nonempty?]
  split
  · rfl
  · rename_i hne
    rw [Option.bind_some, nonempty?, if_neg hne]

end Settings

/-- The recorder of the variables is enabled unless the variable is blank, and its folder is the
value of the variable without the blanks at its ends. -/
theorem Recorder.ofVariables_eq
    {vars : Variables} {value : String} (hvalue : vars.find? folderVariable = some value) :
  ofVariables vars = .ofFolder ((nonempty? (Text.trim value)).map Path.ofText)
  := by
  rw [ofVariables, hvalue, Option.getD_some, nonempty?]
  split
  · rename_i hempty
    rw [if_pos hempty]
    rfl
  · rename_i folder hne
    rw [if_neg hne]
    rfl

namespace Settings

variable {V φ ε : Type} {d : Dialect V φ ε} {vars : Variables} {disk : Disk}

/-- The folder of a recorder for a text, unless the text is empty, tells which text it is up to
trimming. -/
theorem map_ofText_trim_eq_iff
    {value : String} :
  (nonempty? value).map Path.ofText = (nonempty? (Text.trim value)).map Path.ofText
    ↔ Text.trim value = value
  := by
  constructor
  · intro h
    by_cases hempty : value = ""
    · rw [hempty]
      rfl
    · by_cases hblank : Text.trim value = ""
      · rw [nonempty?, nonempty?, if_neg hempty, if_pos hblank] at h
        cases h
      · rw [nonempty?, nonempty?, if_neg hempty, if_neg hblank] at h
        exact Path.ofText_trim_eq_iff.mp (Option.some.inj h).symm
  · intro h
    rw [h]

/-- Without a settings file, and unless a variable for a switch is none, there are settings, in any
dialect that accepts and keeps values of their types.  Their recorder and the one that is read off
the variable directly agree on the folder exactly if the value of the variable has no blanks at its
ends.  Otherwise the recorder of the settings is enabled with all of the value for its folder; the
other is disabled if the value is blank, and else has the folder that the value names without these
blanks. -/
theorem folders_eq_iff_trimmed
    (hkeeps : d.KeepsValues) (haccepts : d.AcceptsTyped) (hfile : find? disk none = .ok none)
    (hgood : ∀ e ∈ switches, ∀ value, ¬ IsBadSwitch vars e.2 value) :
  ∃ s, load d vars disk none = .ok s
    ∧ (s.recorder.folder = (Recorder.ofVariables vars).folder
      ↔ ∀ value, vars.find? Recorder.folderVariable = some value → Text.trim value = value)
    ∧ ∀ value, vars.find? Recorder.folderVariable = some value → Text.trim value ≠ value →
      s.recorder.folder = some (Path.ofText value)
        ∧ (Recorder.ofVariables vars).folder
          = if Text.trim value = "" then none else some (Path.ofText (Text.trim value))
  := by
  obtain ⟨s, hload, hfolder⟩ :=
    exists_load hkeeps haccepts hfile (badSwitch?_eq_none_iff.mpr hgood)
  use s, hload
  cases hvalue : vars.find? Recorder.folderVariable with
  | none =>
    rw [hvalue] at hfolder
    have hnone : s.recorder.folder = (Recorder.ofVariables vars).folder := by
      rw [recorder, stubsPath, hfolder, Recorder.ofVariables, hvalue]
      rfl
    constructor
    · constructor
      · rintro - _ ⟨⟩
      · intro _
        exact hnone
    · rintro _ ⟨⟩
  | some value =>
    rw [hvalue, Option.bind_some] at hfolder
    rw [folder_recorder hfolder, Recorder.ofVariables_eq hvalue]
    dsimp only [Recorder.ofFolder]
    rw [map_ofText_trim_eq_iff]
    constructor
    · constructor
      · rintro h _ ⟨⟩
        exact h
      · intro h
        exact h value rfl
    · rintro _ ⟨⟩ hne
      have hempty : value ≠ "" := by
        rintro rfl
        exact hne rfl
      rw [nonempty?, if_neg hempty, nonempty?]
      use rfl
      split
      · rfl
      · rfl

/-- Settings and variable agree on a folder whose name has no blanks at its ends. -/
theorem folders_eq_iff_trimmed_stubs :
  ∃ s, load .yaml (.ofList [(Recorder.folderVariable, "stubs")]) ⟨.empty, []⟩ none = .ok s
    ∧ s.recorder.folder
      = (Recorder.ofVariables (.ofList [(Recorder.folderVariable, "stubs")])).folder
    ∧ s.recorder.enabled = true
  := by
  obtain ⟨s, hs, hagree, -⟩ := @folders_eq_iff_trimmed _ _ _ .yaml
    (.ofList [(Recorder.folderVariable, "stubs")]) ⟨.empty, []⟩ Dialect.keepsValues_yaml
    Dialect.acceptsTyped_yaml rfl (badSwitch?_eq_none_iff.mp rfl)
  have hfolders := hagree.mpr (by
    rintro value ⟨⟩
    decide +kernel)
  use s, hs, hfolders
  rw [Recorder.enabled, hfolders]
  decide +kernel

/-- For a blank value the recorder of the settings is enabled, and the other is not. -/
theorem folders_ne_blank :
  ∃ s, load .yaml (.ofList [(Recorder.folderVariable, "  ")]) ⟨.empty, []⟩ none = .ok s
    ∧ s.recorder.folder = some (Path.ofText "  ") ∧ s.recorder.enabled = true
    ∧ (Recorder.ofVariables (.ofList [(Recorder.folderVariable, "  ")])).enabled = false
  := by
  obtain ⟨s, hload, hfolder⟩ := @exists_load _ _ _ .yaml
    (.ofList [(Recorder.folderVariable, "  ")]) ⟨.empty, []⟩ Dialect.keepsValues_yaml
    Dialect.acceptsTyped_yaml rfl rfl
  have hrecorder : s.recorder.folder = some (Path.ofText "  ") := folder_recorder hfolder
  use s, hload, hrecorder
  rw [Recorder.enabled, hrecorder]
  decide +kernel

end Settings

end Rollout
