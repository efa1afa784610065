import Mathlib.Tactic.Use
import Rollout.Proofs.Results
import Rollout.Proofs.Settings.Loading

/-!
# Warnings about log levels

The settings know the names of some levels, and the logging those of more.  Every name that the
logging does not recognise, and takes for that of warnings, is warned about.  So are three that
it recognises, and two of these are not the level of warnings: what the warning tells is not
what the logging does.
-/

namespace Rollout

namespace Log

/-- The names of levels that are unknown to the settings. -/
def unlistedNames : List String :=
  (levelNames.map Prod.fst).filter (fun name => !Settings.levelWords.contains name)

theorem unlistedNames_eq :
  unlistedNames = ["FATAL", "WARN", "NOTSET"]
  := by decide

theorem lookup_unlistedNames :
  ∀ name ∈ unlistedNames, levelNames.lookup name ≠ some warning ↔ name ∈ ["FATAL", "NOTSET"]
  := by decide

/-- The settings know no name that is not one of a level. -/
theorem levelWords_subset :
  Settings.levelWords ⊆ levelNames.map Prod.fst
  := by decide

/-- A name is that of a level exactly if the table of levels has it, in upper case. -/
theorem level?_eq_none_iff
    {name : String} :
  level? name = none ↔ upper name ∉ levelNames.map Prod.fst
  := by
  simp only [level?, List.lookup_eq_none_iff, List.mem_map, not_exists, not_and, bne_iff_ne, ne_eq]
  constructor
  · intro h e he heq
    exact h e he heq.symm
  · intro h e he heq
    exact h e he heq.symm

theorem level?_of_mem_unlistedNames
    {name : String} (h : upper name ∈ unlistedNames) :
  ∃ level, level? name = some level
  := by
  apply Option.ne_none_iff_exists'.mp
  rw [ne_eq, level?_eq_none_iff, Classical.not_not]
  exact (List.mem_filter.mp h).1

/-- A name that is no level is taken for that of warnings. -/
theorem levelOf_of_eq_none
    {name : String} (h : level? name = none) :
  levelOf name = warning
  := by
  rw [levelOf, h, Option.getD_none]

/-- Of the names that the settings do not know, two are those of other levels than that of
warnings. -/
theorem levelOf_ne_warning_iff
    {name : String} (h : level? name = none ∨ upper name ∈ unlistedNames) :
  levelOf name ≠ warning ↔ upper name ∈ ["FATAL", "NOTSET"]
  := by
  rcases h with hnone | hunlisted
  · constructor
    · intro hother
      exact absurd (levelOf_of_eq_none hnone) hother
    · intro hupper
      have hlisted : ∀ name ∈ ["FATAL", "NOTSET"], name ∈ levelNames.map Prod.fst := by decide
      exact absurd (hlisted _ hupper) (level?_eq_none_iff.mp hnone)
  · rw [← lookup_unlistedNames _ hunlisted]
    obtain ⟨level, hlevel⟩ := level?_of_mem_unlistedNames hunlisted
    have hlookup : levelNames.lookup (upper name) = some level := hlevel
    rw [levelOf, hlevel, hlookup, Option.getD_some, ne_eq, ne_eq, Option.some.injEq]

namespace Logging

/-- The least level that the console takes. -/
def consoleLevel? (l : Logging) : Option Nat :=
  (l.sinks.find? (fun sink => sink.target = .console)).map Sink.level

variable {l l' : Logging} {p : Plan} {disk disk' : Disk}

/-- Once the logging has been set up, the console takes the level of the plan. -/
theorem consoleLevel?_of_setup
    (h : l.setup p disk = (disk', .ok l')) :
  l'.consoleLevel? = some (levelOf p.level)
  := by
  rw [setup] at h
  split at h
  · cases h
    rw [quiet, install_eq]
    rfl
  · split at h
    · cases h
    · cases h
      rw [quiet, install_eq]
      rfl

/-- Without a file the logging can be set up. -/
theorem exists_setup
    (l : Logging) (disk : Disk) (h : p.path? = none) :
  ∃ l', l.setup p disk = (disk, .ok l')
  := by
  simp only [setup, h]
  exact ⟨_, rfl⟩

end Logging

end Log

namespace Settings

variable {V φ ε : Type} {d : Dialect V φ ε} {vars : Variables} {disk : Disk} {path? : Option Path}
  {r : CheckResult} {s : Settings}

/-- The wording of the warning about a log level. -/
def levelWarning (name : String) : String :=
  s!"Unknown log level '{name}', WARNING will be used."

theorem head?_levelWarning
    (name : String) :
  (levelWarning name).toList.head? = some 'U'
  := by
  have hword : (toString "Unknown log level '").toList = 'U' :: "nknown log level '".toList := by
    decide
  unfold levelWarning
  rw [String.toList_append, String.toList_append, hword]
  rfl

/-- Texts that begin with different characters are different. -/
theorem ne_of_head?
    {a b : String} {c : Char} (ha : a.toList.head? = some c) (hb : b.toList.head? ≠ some c) :
  a ≠ b
  := by
  rintro rfl
  exact hb ha

/-- The warning about a log level is given exactly if the settings do not know it. -/
theorem levelWarning_mem_warnings_iff
    (s : Settings) (path : Option Path) :
  levelWarning s.logLevel ∈ s.warnings path ↔ s.knowsLevel = false
  := by
  have hfile : levelWarning s.logLevel ≠ s!"No {fileName} found, using defaults." :=
    ne_of_head? (head?_levelWarning s.logLevel) (by decide)
  have hrun : levelWarning s.logLevel
      ≠ "continue_on_error is off during a dry run: validation stops at the first failure." :=
    ne_of_head? (head?_levelWarning s.logLevel) (by decide)
  rw [warnings, List.mem_append, List.mem_append]
  constructor
  · rintro ((h | h) | h)
    · split at h
      · exact absurd (List.mem_singleton.mp h) hfile
      · cases h
    · split at h
      · cases h
      · rename_i hnot
        simpa using hnot
    · split at h
      · exact absurd (List.mem_singleton.mp h) hrun
      · cases h
  · intro h
    left
    right
    rw [if_neg (by simp [h])]
    exact List.mem_singleton.mpr rfl

/-- The settings do not know a level exactly if it is none, or one that they leave out. -/
theorem knowsLevel_eq_false_iff :
  s.knowsLevel = false ↔ Log.level? s.logLevel = none ∨ Log.upper s.logLevel ∈ Log.unlistedNames
  := by
  rw [Log.level?_eq_none_iff, knowsLevel]
  simp only [Log.unlistedNames, List.mem_filter]
  constructor
  · intro hnot
    by_cases hmem : Log.upper s.logLevel ∈ Log.levelNames.map Prod.fst
    · right
      exact ⟨hmem, by rw [hnot]; rfl⟩
    · left
      exact hmem
  · rintro (hnot | ⟨-, hnot⟩)
    · rw [← Bool.not_eq_true, List.contains_iff_mem]
      intro hmem
      exact hnot (Log.levelWords_subset hmem)
    · simpa using hnot

/-- Settings that are checked are warned about. -/
theorem warnings_of_check
    (h : check d vars disk path? = .ok r) (hs : r.settings = some s) :
  ∃ path, r.warnings = s.warnings path
  := by
  rw [check] at h
  split at h
  · cases h
  · split at h
    · cases h
      cases hs
      exact ⟨_, rfl⟩
    · cases h
      cases hs
    · cases h

/-- The warning about a log level says that the level of warnings will be used, whatever the dialect
of the settings is.  It is given for every name that the logging does not recognise, and then it is
right.  It is given also for three names that the logging recognises, and for two of these the
console takes another level. -/
theorem warned_iff_unlisted
    (d : Dialect V φ ε) (h : check d vars disk path? = .ok r) (hs : r.settings = some s) :
  (levelWarning s.logLevel ∈ r.warnings
      ↔ Log.level? s.logLevel = none ∨ Log.upper s.logLevel ∈ ["FATAL", "WARN", "NOTSET"])
    ∧ (Log.upper s.logLevel ∈ ["FATAL", "WARN", "NOTSET"] → Log.level? s.logLevel ≠ none)
    ∧ ∀ (l : Log.Logging) (p : Log.Plan) (before : Disk), p.level = s.logLevel →
      (p.path? = none → ∃ l', l.setup p before = (before, .ok l'))
        ∧ ∀ after l', l.setup p before = (after, .ok l') →
          l'.consoleLevel? = some (Log.levelOf s.logLevel)
            ∧ (Log.level? s.logLevel = none → l'.consoleLevel? = some Log.warning)
            ∧ (levelWarning s.logLevel ∈ r.warnings →
              (l'.consoleLevel? ≠ some Log.warning
                ↔ Log.upper s.logLevel ∈ ["FATAL", "NOTSET"]))
  := by
  obtain ⟨path, hwarnings⟩ := warnings_of_check h hs
  have hwarned : levelWarning s.logLevel ∈ r.warnings
      ↔ Log.level? s.logLevel = none ∨ Log.upper s.logLevel ∈ Log.unlistedNames := by
    rw [hwarnings, levelWarning_mem_warnings_iff, knowsLevel_eq_false_iff]
  rw [← Log.unlistedNames_eq]
  use hwarned
  constructor
  · intro hname hnone
    obtain ⟨level, hlevel⟩ := Log.level?_of_mem_unlistedNames hname
    rw [hlevel] at hnone
    cases hnone
  · intro l p before hp
    use l.exists_setup before
    intro after l' hsetup
    have hconsole := Log.Logging.consoleLevel?_of_setup hsetup
    rw [hp] at hconsole
    refine ⟨hconsole, ?_, ?_⟩
    · intro hnone
      rw [hconsole, Log.levelOf_of_eq_none hnone]
    · intro hmem
      rw [hconsole, ← Log.levelOf_ne_warning_iff (hwarned.mp hmem), ne_eq, Option.some.injEq]

/-- A name of no level is warned about, and the console takes the level of warnings. -/
theorem warned_iff_unlisted_loud :
  ∃ r s, check .yaml .empty (Sample.bench (.text "log_level: loud\n")) none = .ok r
    ∧ r.settings = some s ∧ levelWarning s.logLevel ∈ r.warnings
    ∧ ∀ disk, ∃ l', Log.Logging.initial.setup { level := s.logLevel } disk = (disk, .ok l')
      ∧ l'.consoleLevel? = some Log.warning
  := by
  obtain ⟨r, hcheck, hlevel⟩ := exists_eq_ok
    (x := check .yaml .empty (Sample.bench (.text "log_level: loud\n")) none)
    (f := fun r => r.settings.map Settings.logLevel) (b := some "loud") (by decide +kernel)
  obtain ⟨s, hs, hlevel⟩ := Option.map_eq_some_iff.mp hlevel
  have hnone : Log.level? s.logLevel = none := by
    rw [hlevel]
    decide +kernel
  obtain ⟨hwarned, -, hsetup⟩ := warned_iff_unlisted .yaml hcheck hs
  use r, s, hcheck, hs, hwarned.mpr (.inl hnone)
  intro disk
  obtain ⟨hends, hconsole⟩ := hsetup .initial { level := s.logLevel } disk rfl
  obtain ⟨l', hl'⟩ := hends rfl
  exact ⟨l', hl', (hconsole _ _ hl').2.1 hnone⟩

/-- The check of settings says that the level of warnings will be used, and the console takes the
gravest records alone. -/
theorem fatal_warned_not_used :
  ∃ r s, check .yaml .empty (Sample.bench (.text "log_level: FATAL\n")) none = .ok r
    ∧ r.settings = some s ∧ levelWarning s.logLevel ∈ r.warnings
    ∧ Log.level? s.logLevel = some Log.critical
    ∧ ∀ disk, ∃ l', Log.Logging.initial.setup { level := s.logLevel } disk = (disk, .ok l')
      ∧ l'.consoleLevel? = some Log.critical ∧ Log.critical ≠ Log.warning
  := by
  obtain ⟨r, hcheck, hlevel⟩ := exists_eq_ok
    (x := check .yaml .empty (Sample.bench (.text "log_level: FATAL\n")) none)
    (f := fun r => r.settings.map Settings.logLevel) (b := some "FATAL") (by decide +kernel)
  obtain ⟨s, hs, hlevel⟩ := Option.map_eq_some_iff.mp hlevel
  obtain ⟨path, hwarnings⟩ := warnings_of_check hcheck hs
  use r, s, hcheck, hs
  rw [hwarnings, levelWarning_mem_warnings_iff, knowsLevel_eq_false_iff, hlevel]
  use .inr (by decide +kernel), by decide +kernel
  intro disk
  exact ⟨_, rfl, by decide +kernel, by decide⟩

end Settings

end Rollout
