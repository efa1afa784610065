import Mathlib.Tactic.Use
import Rollout.Cli.Output
import Rollout.Proofs.Identity.Encoding

/-!
# What a settings file may hold

Whatever the dialect of a settings file, and however command lines are parsed: if the file is a
text, then there are settings, or there is a problem with them that every command can tell, and
commands that need no settings are not affected.  This is not so for bytes that are no text: they
stop every command, before it has begun.
-/

namespace Rollout

/-- The bytes of a text, and no others, are that text. -/
theorem Content.ofBytes_eq_text_iff
    {bytes : List UInt8} {s : String} :
  Content.ofBytes bytes = .text s ↔ Digest.utf8 s = bytes
  := by
  rw [Content.ofBytes, Digest.utf8]
  constructor
  · intro h
    split at h
    · rename_i t ht
      rw [String.fromUTF8?] at ht
      split at ht
      · cases h
        cases ht
        rfl
      · cases ht
    · cases h
  · intro h
    subst h
    have hdecoded : String.fromUTF8? ⟨s.toUTF8.data.toList.toArray⟩ = some s := by
      rw [Array.toArray_toList, String.fromUTF8?]
      exact dif_pos s.isValidUTF8
    rw [hdecoded]

theorem Disk.isFile_of_read
    {disk : Disk} {path : Path} {content : Content} (h : disk.read path = .ok content) :
  disk.isFile path = .ok true
  := by
  rw [Disk.read] at h
  rw [Disk.isFile]
  split at h
  · cases h
  · cases h
  · rename_i hstat
    rw [hstat]

namespace Settings

variable {V φ ε : Type} (d : Dialect V φ ε)

/-- Bytes are those of a text. -/
def IsText (bytes : List UInt8) : Prop :=
  ∃ s, Digest.utf8 s = bytes

/-- There are settings, which fit, or a problem with them is told. -/
def IsSettled (r : Except (Failure φ ε) Settings) : Prop :=
  (∃ entries s, d.validate entries = .ok s ∧ r = .ok s) ∨ ∃ p, r = .error (.problem p)

/-- The settings are in a file with some bytes: the one that is named or else the nearest. -/
def AreIn (disk : Disk) (path? : Option Path) (bytes : List UInt8) : Prop :=
  ∃ path, locate? disk path? = .ok (some path) ∧ disk.read path = .ok (.ofBytes bytes)

/-- If bytes are a text that is rejected, it is because the text is not of the language. -/
def Dialect.RejectsMalformed (bytes : List UInt8) : Prop :=
  ∀ s reason, Digest.utf8 s = bytes → d.parse (Text.unifyLines s.toList) = .error reason →
    d.isMalformed reason = true

variable {d} {vars : Variables} {disk : Disk} {path : Path} {path? : Option Path}
  {bytes : List UInt8}

/-! ### Reading -/

theorem ofBytes_of_not_isText
    (h : ¬ IsText bytes) :
  Content.ofBytes bytes = .binary bytes
  := by
  rw [Content.ofBytes]
  split
  · rename_i s hs
    apply absurd _ h
    use s
    apply Content.ofBytes_eq_text_iff.mp
    rw [Content.ofBytes, hs]
  · rfl

theorem readFile_of_not_isText
    (hread : disk.read path = .ok (.ofBytes bytes)) (h : ¬ IsText bytes) :
  readFile d disk path = .error .notText
  := by
  rw [ofBytes_of_not_isText h] at hread
  rw [readFile, Disk.isFile_of_read hread, hread]

/-- All that can be wrong with the text of a settings file is a problem. -/
theorem exists_problem_of_readFile
    (hread : disk.read path = .ok (.ofBytes bytes)) (htold : d.RejectsMalformed bytes)
    (h : IsText bytes) {e : Failure φ ε} (he : readFile d disk path = .error e) :
  ∃ p, e = .problem p
  := by
  obtain ⟨s, hs⟩ := h
  rw [Content.ofBytes_eq_text_iff.mpr hs] at hread
  rw [readFile, Disk.isFile_of_read hread, hread] at he
  dsimp only at he
  split at he
  · rename_i reason hparse
    rw [if_pos (htold s reason hs hparse)] at he
    cases he
    exact ⟨_, rfl⟩
  · split at he
    · cases he
    · cases he
    · cases he
      exact ⟨_, rfl⟩

/-! ### Loading -/

theorem isSettled_settle
    (vars : Variables) (entries : List (V × V)) :
  IsSettled d ((settle d vars entries).mapError .problem)
  := by
  rw [settle]
  split
  · exact .inr ⟨_, rfl⟩
  · rename_i entries _
    cases h : d.validate (overrideTexts d vars entries) with
    | error issues => exact .inr ⟨_, rfl⟩
    | ok s => exact .inl ⟨_, s, h, rfl⟩

theorem isSettled_load
    (vars : Variables) (hin : AreIn disk path? bytes) (htold : d.RejectsMalformed bytes)
    (h : IsText bytes) :
  IsSettled d (load d vars disk path?)
  := by
  obtain ⟨path, hfound, hread⟩ := hin
  rw [load, hfound]
  dsimp only
  split
  · rename_i e he
    obtain ⟨p, rfl⟩ := exists_problem_of_readFile hread htold h he
    exact .inr ⟨p, rfl⟩
  · apply isSettled_settle

theorem load_of_not_isText
    (vars : Variables) (hin : AreIn disk path? bytes) (h : ¬ IsText bytes) :
  load d vars disk path? = .error .notText
  := by
  obtain ⟨path, hfound, hread⟩ := hin
  rw [load, hfound]
  dsimp only
  rw [readFile_of_not_isText hread h]

/-- Settings that are looked for are loaded from the file that is found. -/
theorem load_of_locate
    (d : Dialect V φ ε) (vars : Variables) {found : Option Path}
    (h : locate? disk path? = .ok found) :
  load d vars disk found = load d vars disk path?
  := by
  cases found with
  | some path =>
    have hpath : locate? disk (some path) = .ok (some path) := rfl
    rw [load, load, hpath, h]
  | none =>
    cases path? with
    | none => rfl
    | some path => cases h

/-- Settings that are settled are checked. -/
theorem exists_check
    (hin : AreIn disk path? bytes) (h : IsSettled d (load d vars disk path?)) :
  ∃ r, check d vars disk path? = .ok r
  := by
  obtain ⟨path, hfound, -⟩ := hin
  rw [check, hfound]
  dsimp only
  rw [load_of_locate d vars hfound]
  rcases h with ⟨-, s, -, hload⟩ | ⟨p, hload⟩
  · rw [hload]
    exact ⟨_, rfl⟩
  · rw [hload]
    exact ⟨_, rfl⟩

theorem check_of_not_isText
    (vars : Variables) (hin : AreIn disk path? bytes) (h : ¬ IsText bytes) :
  check d vars disk path? = .error .notText
  := by
  have hload : load d vars disk path? = .error .notText := load_of_not_isText vars hin h
  obtain ⟨path, hfound, -⟩ := hin
  rw [check, hfound]
  dsimp only
  rw [load_of_locate d vars hfound, hload]

end Settings

/-! ### Command lines -/

namespace Cli

variable {V φ ε σ : Type} {d : Settings.Dialect V φ ε} {g : Parser σ} {vars : Variables}
  {disk : Disk} {path? : Option Path} {bytes : List UInt8} {words : List String}
  {invocation : Invocation}

/-- How a command line ends whatever level the settings configure: once the log is open its
command is heard. -/
def Invocation.ending (d : Settings.Dialect V φ ε) (g : Parser σ) (vars : Variables) (disk : Disk)
    (invocation : Invocation) : Except (Stop σ φ) Printed :=
  match Log.Logging.initial.setup (invocation.globals.switches.plan vars none) disk with
  | (_, .error fault) => .error (.crash (.ofFault fault))
  | (disk, .ok _) =>
    match g.task disk invocation.command invocation.words with
    | .error h => .error (.halt h)
    | .ok task => perform d vars disk invocation.globals task

/-- Settings that are settled stop nothing: whether the log can be opened is not up to
them. -/
theorem ending_run
    (hwords : g.invocation words = .ok invocation)
    (h : Settings.IsSettled d (Settings.load d vars disk invocation.globals.path?)) :
  (run d g vars disk words).ending = invocation.ending d g vars disk
  := by
  obtain ⟨configured, hconfigured⟩ :
      ∃ configured, configuredLevel d vars disk invocation.globals = .ok configured := by
    rw [configuredLevel]
    rcases h with ⟨-, s, -, hload⟩ | ⟨p, hload⟩
    · rw [hload]
      exact ⟨_, rfl⟩
    · rw [hload]
      exact ⟨_, rfl⟩
  rw [run, hwords]
  dsimp only
  rw [hconfigured]
  have hpath : (invocation.globals.switches.plan vars configured).path?
      = (invocation.globals.switches.plan vars none).path? := rfl
  simp only [Invocation.ending, Log.Logging.setup, hpath]
  cases (invocation.globals.switches.plan vars none).path? with
  | none => rfl
  | some path =>
    dsimp only
    cases Log.openFile disk path with
    | mk disk' opened => cases opened <;> rfl

theorem run_of_notText
    (hwords : g.invocation words = .ok invocation)
    (h : Settings.load d vars disk invocation.globals.path? = .error .notText) :
  run d g vars disk words = ⟨.error (.crash .notText), .initial, disk⟩
  := by
  rw [run, hwords]
  dsimp only
  rw [configuredLevel, h]
  rfl

/-- Bytes that are no text are all that a settings file can hold to stop a command line, in any
dialect that rejects a text only for not being of the language, and for any parser of command
lines.  If the bytes of a file are a text, then there are settings or a problem with them is told,
they can be checked, and every command is heard.  If they are none, then there are neither
settings nor a problem, and every command line crashes before its command is heard. -/
theorem heard_unless_not_isText
    (d : Settings.Dialect V φ ε) (g : Parser σ) (vars : Variables)
    (hin : Settings.AreIn disk path? bytes) (htold : d.RejectsMalformed bytes) :
  (Settings.IsText bytes →
      Settings.IsSettled d (Settings.load d vars disk path?)
        ∧ (∃ r, Settings.check d vars disk path? = .ok r)
        ∧ ∀ words invocation, g.invocation words = .ok invocation →
          invocation.globals.path? = path? →
            (run d g vars disk words).ending = invocation.ending d g vars disk)
    ∧ (¬ Settings.IsText bytes →
      Settings.load d vars disk path? = .error .notText
        ∧ Settings.check d vars disk path? = .error .notText
        ∧ ∀ words invocation, g.invocation words = .ok invocation →
          invocation.globals.path? = path? →
            run d g vars disk words = ⟨.error (.crash .notText), .initial, disk⟩)
  := by
  constructor
  · intro htext
    have hsettled := Settings.isSettled_load vars hin htold htext
    use hsettled, Settings.exists_check hin hsettled
    intro words invocation hwords hpath
    apply ending_run hwords
    rw [hpath]
    apply hsettled
  · intro hbinary
    have hload : Settings.load d vars disk path? = .error .notText :=
      Settings.load_of_not_isText vars hin hbinary
    use hload, Settings.check_of_not_isText vars hin hbinary
    intro words invocation hwords hpath
    apply run_of_notText hwords
    rw [hpath, hload]

end Cli

namespace Sample

/-- A folder with a settings file and a template. -/
def bench (settings : Content) : Disk :=
  ⟨.ofList [([Settings.fileName], .file settings), (["board.json"], .file (.text "[]"))], []⟩

/-- The settings file of the folder. -/
def settingsPath : Path :=
  ⟨"/", [Settings.fileName]⟩

/-- The words that ask for the template to be rendered. -/
def renderWords : List String :=
  ["render", "board.json"]

/-- What the words mean. -/
def rendering : Cli.Invocation :=
  ⟨⟨{}, none⟩, .render, ["board.json"]⟩

/-- The settings are in the settings file of the folder. -/
theorem areIn_bench
    (bytes : List UInt8) :
  Settings.AreIn (bench (.ofBytes bytes)) none bytes
  := ⟨settingsPath, rfl, rfl⟩

end Sample

namespace Cli

/-- A settings file with a switch that is none is a problem for the settings, which are
checked nevertheless, and none for the template. -/
theorem heard_unless_not_isText_maybe :
  (∃ p, Settings.load .yaml .empty (Sample.bench (.text "dry_run: maybe\n")) none
      = .error (.problem p))
    ∧ (∃ r, Settings.check .yaml .empty (Sample.bench (.text "dry_run: maybe\n")) none = .ok r)
    ∧ (run .yaml .words .empty (Sample.bench (.text "dry_run: maybe\n")) Sample.renderWords).out
      = "[]\n"
  := by
  have htext : Content.ofBytes (Digest.utf8 "dry_run: maybe\n") = .text "dry_run: maybe\n" :=
    Content.ofBytes_eq_text_iff.mpr rfl
  have hparse : (Settings.Dialect.yaml.parse
      (Text.unifyLines "dry_run: maybe\n".toList)).toOption.isSome := by decide +kernel
  have htold : Settings.Dialect.yaml.RejectsMalformed (Digest.utf8 "dry_run: maybe\n") := by
    intro s reason hs hreason
    rw [Digest.utf8_injective hs] at hreason
    rw [hreason] at hparse
    cases hparse
  have hnone : (Settings.load .yaml .empty (Sample.bench (.text "dry_run: maybe\n"))
      none).toOption.isNone := by decide +kernel
  obtain ⟨hsettled, hcheck, hrun⟩ := (heard_unless_not_isText .yaml .words .empty
    (Sample.areIn_bench (Digest.utf8 "dry_run: maybe\n")) htold).1 ⟨_, rfl⟩
  rw [htext] at hsettled hcheck hrun
  constructor
  · rcases hsettled with ⟨-, s, -, hload⟩ | hproblem
    · rw [hload] at hnone
      cases hnone
    · apply hproblem
  · use hcheck
    rw [Result.out, hrun Sample.renderWords Sample.rendering rfl rfl]
    decide +kernel

/-- A single byte that begins no character stops every use of the settings and the rendering
of the template. -/
theorem notText_not_heard :
  Settings.AreIn (Sample.bench (.ofBytes [0xff])) none [0xff]
    ∧ Settings.Dialect.yaml.RejectsMalformed [0xff]
    ∧ ¬ Settings.IsSettled .yaml
      (Settings.load .yaml .empty (Sample.bench (.ofBytes [0xff])) none)
    ∧ (¬ ∃ r, Settings.check .yaml .empty (Sample.bench (.ofBytes [0xff])) none = .ok r)
    ∧ (run .yaml .words .empty (Sample.bench (.ofBytes [0xff])) Sample.renderWords).ending
      = .error (.crash .notText)
    ∧ (Sample.rendering.ending .yaml .words .empty (Sample.bench (.ofBytes [0xff]))).toOption
      = some { out := ["[]"] }
  := by
  have hbinary : Content.ofBytes [0xff] = .binary [0xff] := by decide +kernel
  have hnot : ¬ Settings.IsText [0xff] := by
    rintro ⟨s, hs⟩
    rw [Content.ofBytes_eq_text_iff.mpr hs] at hbinary
    cases hbinary
  have hin := Sample.areIn_bench [0xff]
  have hload : Settings.load .yaml .empty (Sample.bench (.ofBytes [0xff])) none = .error .notText :=
    Settings.load_of_not_isText .empty hin hnot
  use hin
  constructor
  · intro s reason hs
    exact absurd ⟨s, hs⟩ hnot
  · rw [hload, Settings.check_of_not_isText .empty hin hnot]
    constructor
    · rintro (⟨-, s, -, hs⟩ | ⟨p, hp⟩)
      · cases hs
      · cases hp
    · constructor
      · rintro ⟨r, hr⟩
        cases hr
      · constructor
        · have hwords : Parser.words.invocation Sample.renderWords = .ok Sample.rendering := rfl
          rw [run_of_notText hwords hload]
        · decide +kernel

end Cli

end Rollout
