import Mathlib.Tactic.Use
import Rollout.Proofs.Log.Opening

/-!
# Setting the logging up again and again

A call that sets the logging up replaces what earlier calls have installed, and one that fails
leaves it.  So the last call that succeeds decides on the logging, and decides the same as if it
had been the only one.  The level of the logging is low enough for each of its sinks: a record
reaches exactly those at whose level it is, or above it.
-/

namespace Rollout.Log

open Disk

variable {disk disk' : Disk} {path place : Path} {p : Plan} {l : Logging} {r : Record}

/-! ### One call -/

namespace Plan

/-- The sinks that a plan asks for. -/
def sinks (p : Plan) (disk : Disk) : List Sink :=
  match p.path? with
  | none => [p.consoleSink]
  | some path => [p.consoleSink, p.fileSink (disk.resolve path)]

/-- The level of the logging that a plan asks for, which is the lower one of its two levels. -/
def lowerLevel (p : Plan) : Nat :=
  match p.path? with
  | none => p.consoleLevel
  | some _ => min p.consoleLevel p.levelOfFile

theorem sinks_congr
    (h : disk.Keeps disk') (p : Plan) :
  p.sinks disk' = p.sinks disk
  := by
  rw [sinks, sinks]
  cases p.path? with
  | none => rfl
  | some path =>
    dsimp only
    rw [h.resolve]

theorem lowerLevel_le
    {sink : Sink} (h : sink ∈ p.sinks disk) :
  p.lowerLevel ≤ sink.level
  := by
  rw [sinks] at h
  rw [lowerLevel]
  cases hpath : p.path? with
  | none =>
    rw [hpath] at h
    cases List.mem_singleton.mp h
    apply Nat.le_refl
  | some path =>
    rw [hpath] at h
    dsimp only at h ⊢
    obtain rfl | rfl := List.mem_pair.mp h
    · apply Nat.min_le_left
    · apply Nat.min_le_right

/-- All that a plan asks for is there: its level, its sinks, and its file. -/
structure IsCarriedOut (p : Plan) (disk : Disk) (l : Logging) : Prop where
  level : l.level = p.lowerLevel
  sinks : l.sinks = p.sinks disk
  file : ∀ path, p.path? = some path → ∃ content, disk.Takes (disk.resolve path) content

/-- Without a file there is nothing to open. -/
theorem isCarriedOut_of_none
    (h : p.path? = none) (disk : Disk) (l : Logging) :
  p.IsCarriedOut disk ((l.install p.consoleSink []).quiet p)
  := by
  rw [Logging.quiet, Logging.install_eq]
  constructor
  · rw [lowerLevel, h]
    rfl
  · rw [sinks, h]
  · rw [h]
    rintro _ ⟨⟩

theorem isCarriedOut_of_openFile
    (h : p.path? = some path) (hopened : openFile disk path = (disk', .ok place)) (l : Logging) :
  p.IsCarriedOut disk' ((l.install p.consoleSink [p.fileSink place]).quiet p)
  := by
  have hevolves := evolves_openFile disk path
  rw [hopened] at hevolves
  obtain ⟨-, rfl, -⟩ := openFile_eq_ok_iff.mp hopened
  rw [Logging.quiet, Logging.install_eq, ← hevolves.resolve]
  constructor
  · rw [lowerLevel, h]
    rfl
  · rw [sinks, h]
  · rw [h]
    rintro _ ⟨⟩
    rw [hevolves.resolve]
    apply exists_takes_openFile hopened

/-- What comes of setting the logging up. -/
inductive Carrying (p : Plan) (disk : Disk) : Disk × Except Fault Logging → Prop where
  /-- All goes well. -/
  | done {disk' : Disk} {l : Logging} (opens : ∀ path, p.path? = some path → Opens disk path)
      (carriedOut : p.IsCarriedOut disk' l) (evolves : disk.Evolves disk') :
      Carrying p disk (disk', .ok l)
  /-- The file cannot be opened. -/
  | failed {disk' : Disk} {fault : Fault} {path : Path} (file : p.path? = some path)
      (failed : ¬ Opens disk path) (within : disk.Within disk') (evolves : disk.Evolves disk') :
      Carrying p disk (disk', .error fault)

theorem carrying_setup
    (p : Plan) (disk : Disk) (l : Logging) :
  p.Carrying disk (l.setup p disk)
  := by
  rw [Logging.setup]
  cases hpath : p.path? with
  | none =>
    apply Carrying.done
    · rw [hpath]
      rintro _ ⟨⟩
    · apply isCarriedOut_of_none hpath
    · apply Evolves.refl
  | some path =>
    have hevolves := evolves_openFile disk path
    dsimp only
    generalize hopened : openFile disk path = opened at hevolves
    obtain ⟨disk', result⟩ := opened
    cases result with
    | error fault =>
      refine .failed hpath ?_ (within_openFile hopened) hevolves
      rintro ⟨other, place, hother⟩
      rw [hopened] at hother
      cases hother
    | ok place =>
      refine .done ?_ (isCarriedOut_of_openFile hpath hopened l) hevolves
      rw [hpath]
      rintro _ ⟨⟩
      exact ⟨disk', place, hopened⟩

/-- The logging can be set up exactly if the file can be opened, whatever the logging is before. -/
theorem isOk_setup_iff
    (l : Logging) :
  (l.setup p disk).2.isOk = true ↔ ∀ path, p.path? = some path → Opens disk path
  := by
  have hcarrying := carrying_setup p disk l
  generalize l.setup p disk = result at hcarrying ⊢
  cases hcarrying with
  | done opens => exact iff_of_true rfl opens
  | failed file failed =>
    apply iff_of_false Bool.false_ne_true
    intro h
    exact failed (h _ file)

/-- Whatever the logging is before, it has the level and the sinks that setting it up by a plan
amounts to. -/
def Decides (p : Plan) (disk : Disk) (l : Logging) : Prop :=
  ∀ before : Logging, ∃ disk' after, before.setup p disk = (disk', .ok after)
    ∧ l.level = after.level ∧ l.sinks = after.sinks

/-- A plan that has been carried out decides on the logging on any disk with the same working
folder where its file can be opened. -/
theorem IsCarriedOut.decides
    {start : Disk} (h : p.IsCarriedOut disk l) (hkeeps : start.Keeps disk)
    (hopens : ∀ path, p.path? = some path → Opens start path) :
  p.Decides start l
  := by
  intro before
  have hcarrying := carrying_setup p start before
  generalize before.setup p start = result at hcarrying
  cases hcarrying with
  | failed file failed => exact absurd (hopens _ file) failed
  | done opens carriedOut evolves =>
    refine ⟨_, _, rfl, ?_, ?_⟩
    · rw [h.level, carriedOut.level]
    · rw [h.sinks, carriedOut.sinks, p.sinks_congr hkeeps, p.sinks_congr evolves.toKeeps]

end Plan

/-! ### Logging a record -/

/-- What a sink shows of a record: a line, if the record is at the level of the sink or above it.
A record without a level is not shown. -/
def Sink.share (sink : Sink) (r : Record) : String :=
  if 0 < r.level ∧ sink.level ≤ r.level then sink.layout.text r ++ "\n" else ""

theorem prefix_of_isWithin
    {name logger : String} (h : isWithin name logger = true) :
  name.toList <+: logger.toList
  := by
  rw [isWithin, Bool.or_eq_true, beq_iff_eq] at h
  obtain rfl | h := h
  · apply List.prefix_rfl
  · apply List.IsPrefix.trans _ (List.isPrefixOf_iff_prefix.mp h)
    rw [String.toList_append]
    apply List.prefix_append

namespace Logging

/-- A logger of the program is none of those that are kept quiet. -/
theorem ownLevel?_eq_none
    (l : Logging) {logger : String} (h : isWithin "confdeploy" logger = true) :
  l.ownLevel? logger = none
  := by
  have hother : ∀ name ∈ clientLoggers,
      ¬ name.toList <+: "confdeploy".toList ∧ ¬ "confdeploy".toList <+: name.toList := by
    decide
  have hnone : clientLoggers.any (fun name => isWithin name logger) = false := by
    rw [List.any_eq_false]
    intro name hname hwithin
    obtain hfirst | hfirst :=
      List.prefix_or_prefix_of_prefix (prefix_of_isWithin hwithin) (prefix_of_isWithin h)
    · exact (hother name hname).1 hfirst
    · exact (hother name hname).2 hfirst
  rw [ownLevel?, hnone, Bool.and_false]
  rfl

/-- A record reaches some of the sinks that a plan asks for. -/
theorem reached_eq_filter
    (h : p.IsCarriedOut disk l) (r : Record) :
  l.reached r
    = (p.sinks disk).filter (fun sink => l.passes r && decide (sink.level ≤ r.level))
  := by
  have hsome : (p.sinks disk).isEmpty = false := by
    rw [Plan.sinks]
    cases p.path? with
    | none => rfl
    | some path => rfl
  rw [reached, sinksInUse, h.sinks, hsome]
  cases l.passes r with
  | false => simp
  | true => simp

/-- The logging passes on whatever one of its sinks takes. -/
theorem reached_eq
    (h : p.IsCarriedOut disk l) (hr : isWithin "confdeploy" r.logger = true) :
  l.reached r
    = (p.sinks disk).filter (fun sink => decide (0 < r.level ∧ sink.level ≤ r.level))
  := by
  rw [reached_eq_filter h]
  apply List.filter_congr
  intro sink hsink
  have hlower := Plan.lowerLevel_le hsink
  rw [passes, l.ownLevel?_eq_none hr, Option.getD_none, h.level, ← Bool.decide_and,
    ← Bool.decide_and]
  apply decide_eq_decide.mpr
  omega

end Logging

/-- What a plan's sinks have been given: a text for the console, and one for the file. -/
structure Plan.Adds (p : Plan) (shown : Sink → String) (w w' : Written) : Prop where
  console : w'.console = w.console ++ shown p.consoleSink
  noFile : p.path? = none → w'.disk = w.disk
  file : ∀ path, p.path? = some path →
    ∃ content, w.disk.Takes (w.disk.resolve path) content
      ∧ w'.disk.Takes (w.disk.resolve path)
        (content.append (shown (p.fileSink (w.disk.resolve path))))

namespace Written

variable {w : Written} {content : Content} {line : String}

theorem append_empty
    (content : Content) :
  content.append "" = content
  := by
  cases content with
  | text s => rw [Content.append, String.append_empty]
  | binary bytes => exact congrArg Content.binary (List.append_nil bytes)

/-- The console is given a line or nothing. -/
theorem add_console_cases
    (w : Written) (takes : Bool) (line : String) :
  (if takes then w.add .console line else w)
    = { w with console := w.console ++ if takes then line ++ "\n" else "" }
  := by
  cases takes with
  | false => simp
  | true => simp [add, String.append_assoc]

/-- A file is given a line or nothing. -/
theorem add_file_cases
    (h : w.disk.Takes place content) (takes : Bool) (line : String) :
  (if takes then w.add (.file place) line else w).console = w.console
    ∧ (if takes then w.add (.file place) line else w).disk.Takes place
      (content.append (if takes then line ++ "\n" else ""))
  := by
  cases takes with
  | false =>
    rw [if_neg Bool.false_ne_true, if_neg Bool.false_ne_true, append_empty]
    exact ⟨rfl, h⟩
  | true =>
    obtain ⟨disk', hadded, htakes⟩ := h.append (line ++ "\n")
    rw [if_pos rfl, if_pos rfl, add, hadded]
    exact ⟨rfl, htakes⟩

theorem evolves_add
    (w : Written) (target : Target) (line : String) :
  w.disk.Evolves (w.add target line).disk
  := by
  cases target with
  | console => apply Evolves.refl
  | file path =>
    rw [add]
    cases hadded : w.disk.append path (line ++ "\n") with
    | error fault => apply Evolves.refl
    | ok disk' => apply evolves_append hadded

/-- Whatever is added to sinks, nothing is taken away. -/
theorem evolves_log
    (l : Logging) (w : Written) (r : Record) :
  w.disk.Evolves (log l w r).disk
  := by
  rw [log]
  generalize l.reached r = sinks
  induction sinks generalizing w with
  | nil => apply Evolves.refl
  | cons sink sinks ih => apply (w.evolves_add sink.target _).trans (ih _)

/-- A record that reaches some of the sinks of a plan adds a line to each of these. -/
theorem adds_log
    (h : p.IsCarriedOut w.disk l) {takes : Sink → Bool}
    (hreached : l.reached r = (p.sinks w.disk).filter takes) :
  p.Adds (fun sink => if takes sink then sink.layout.text r ++ "\n" else "") w (log l w r)
  := by
  have hconsole : (if takes p.consoleSink
      then w.add p.consoleSink.target (p.consoleSink.layout.text r) else w)
      = { w with console := w.console
            ++ if takes p.consoleSink then p.consoleSink.layout.text r ++ "\n" else "" } :=
    w.add_console_cases (takes p.consoleSink) (p.consoleSink.layout.text r)
  rw [log, hreached, List.foldl_filter, Plan.sinks]
  cases hpath : p.path? with
  | none =>
    dsimp only
    rw [List.foldl_cons, List.foldl_nil, hconsole]
    constructor
    · rfl
    · exact fun _ => rfl
    · rw [hpath]
      rintro _ ⟨⟩
  | some path =>
    obtain ⟨content, hcontent⟩ := h.file path hpath
    dsimp only
    rw [List.foldl_cons, List.foldl_cons, List.foldl_nil, hconsole]
    generalize hw' : Written.mk _ w.disk = w'
    have htakes : w'.disk.Takes (w.disk.resolve path) content := by
      rw [← hw']
      apply hcontent
    obtain ⟨hsame, hadded⟩ := add_file_cases htakes (takes (p.fileSink (w.disk.resolve path)))
      ((p.fileSink (w.disk.resolve path)).layout.text r)
    constructor
    · apply hsame.trans
      rw [← hw']
    · rw [hpath]
      rintro ⟨⟩
    · rw [hpath]
      rintro _ ⟨⟩
      exact ⟨content, hcontent, hadded⟩

end Written

/-! ### Many calls -/

/-- What happens to the logging of a process. -/
inductive Event where
  /-- It is set up by a plan, which may fail. -/
  | setup (p : Plan)
  /-- A record is logged. -/
  | log (r : Record)
deriving DecidableEq, Repr

/-- A process, as far as it logs. -/
structure Process where
  logging : Logging
  written : Written

namespace Process

variable {s : Process} {e : Event} {events : List Event}

/-- The process after an event.  A call that fails may have made folders. -/
def step (s : Process) : Event → Process
  | .setup p =>
    match s.logging.setup p s.written.disk with
    | (disk, .error _) => { s with written := { s.written with disk } }
    | (disk, .ok logging) => ⟨logging, { s.written with disk }⟩
  | .log r => { s with written := .log s.logging s.written r }

/-- The process after events. -/
def after (s : Process) (events : List Event) : Process :=
  events.foldl step s

/-- A call succeeds. -/
def Succeeds (s : Process) (p : Plan) : Prop :=
  (s.logging.setup p s.written.disk).2.isOk = true

instance (s : Process) (p : Plan) : Decidable (s.Succeeds p) :=
  inferInstanceAs (Decidable (_ = true))

/-- No call among events succeeds. -/
def NoneSucceeds (s : Process) (events : List Event) : Prop :=
  ∀ before p rest, events = before ++ .setup p :: rest → ¬ (s.after before).Succeeds p

theorem noneSucceeds_nil
    (s : Process) :
  s.NoneSucceeds []
  := by
  intro before p rest h
  exact absurd h.symm (List.append_ne_nil_of_right_ne_nil before (List.cons_ne_nil _ _))

theorem noneSucceeds_cons_iff :
  s.NoneSucceeds (e :: events)
    ↔ (∀ p, e = .setup p → ¬ s.Succeeds p) ∧ (s.step e).NoneSucceeds events
  := by
  constructor
  · intro h
    constructor
    · rintro p rfl
      exact h [] p events rfl
    · rintro before p rest rfl
      exact h (e :: before) p rest rfl
  · rintro ⟨hfirst, hrest⟩ before p rest hsplit
    cases before with
    | nil =>
      obtain ⟨rfl, -⟩ := List.cons.inj hsplit
      exact hfirst p rfl
    | cons first before =>
      obtain ⟨rfl, hrest'⟩ := List.cons.inj hsplit
      exact hrest before p rest hrest'

/-- A call carries its plan out, or else it leaves the logging and all that is on the disk. -/
theorem step_setup_cases
    (s : Process) (p : Plan) :
  s.written.disk.Evolves (s.step (.setup p)).written.disk
    ∧ (s.Succeeds p
        ∧ p.IsCarriedOut (s.step (.setup p)).written.disk (s.step (.setup p)).logging
      ∨ ¬ s.Succeeds p ∧ (s.step (.setup p)).logging = s.logging
        ∧ s.written.disk.Within (s.step (.setup p)).written.disk)
  := by
  have hcarrying := Plan.carrying_setup p s.written.disk s.logging
  rw [step, Succeeds]
  generalize s.logging.setup p s.written.disk = result at hcarrying
  cases hcarrying with
  | done opens carriedOut evolves => exact ⟨evolves, .inl ⟨rfl, carriedOut⟩⟩
  | failed file failed within evolves =>
    exact ⟨evolves, .inr ⟨Bool.false_ne_true, rfl, within⟩⟩

theorem evolves_step
    (s : Process) (e : Event) :
  s.written.disk.Evolves (s.step e).written.disk
  := by
  cases e with
  | setup p => exact (s.step_setup_cases p).1
  | log r => apply Written.evolves_log

theorem evolves_after
    (s : Process) (events : List Event) :
  s.written.disk.Evolves (s.after events).written.disk
  := by
  induction events generalizing s with
  | nil => apply Evolves.refl
  | cons e events ih => apply (s.evolves_step e).trans (ih _)

theorem isCarriedOut_step
    (h : s.Succeeds p) :
  p.IsCarriedOut (s.step (.setup p)).written.disk (s.step (.setup p)).logging
  := ((s.step_setup_cases p).2.resolve_right fun hnot => hnot.1 h).2

/-- A call that fails leaves the logging. -/
theorem step_of_not_succeeds
    (h : ¬ s.Succeeds p) :
  (s.step (.setup p)).logging = s.logging
    ∧ s.written.disk.Within (s.step (.setup p)).written.disk
  := ((s.step_setup_cases p).2.resolve_left fun hdone => h hdone.1).2

/-- The logging changes only when a call succeeds. -/
theorem logging_step
    (h : ∀ p, e = .setup p → ¬ s.Succeeds p) :
  (s.step e).logging = s.logging
  := by
  cases e with
  | log r => rfl
  | setup p => exact (step_of_not_succeeds (h p rfl)).1

/-- What a plan asks for stays there unless another call succeeds. -/
theorem isCarriedOut_step_of_none
    (hcarriedOut : p.IsCarriedOut s.written.disk s.logging)
    (h : ∀ p, e = .setup p → ¬ s.Succeeds p) :
  p.IsCarriedOut (s.step e).written.disk (s.step e).logging
  := by
  have hevolves := s.evolves_step e
  rw [logging_step h]
  constructor
  · apply hcarriedOut.level
  · rw [p.sinks_congr hevolves.toKeeps]
    apply hcarriedOut.sinks
  · intro path hpath
    rw [hevolves.resolve]
    cases e with
    | log r =>
      have hadds := Written.adds_log hcarriedOut (Logging.reached_eq_filter hcarriedOut r)
      obtain ⟨content, -, htakes⟩ := hadds.file path hpath
      exact ⟨_, htakes⟩
    | setup q =>
      obtain ⟨content, htakes⟩ := hcarriedOut.file path hpath
      exact ⟨content, htakes.within (step_of_not_succeeds (h q rfl)).2⟩

theorem logging_after
    (h : s.NoneSucceeds events) :
  (s.after events).logging = s.logging
  := by
  induction events generalizing s with
  | nil => rfl
  | cons e events ih =>
    obtain ⟨hfirst, hrest⟩ := noneSucceeds_cons_iff.mp h
    apply (ih hrest).trans (logging_step hfirst)

theorem isCarriedOut_after
    (hcarriedOut : p.IsCarriedOut s.written.disk s.logging) (h : s.NoneSucceeds events) :
  p.IsCarriedOut (s.after events).written.disk (s.after events).logging
  := by
  induction events generalizing s with
  | nil => apply hcarriedOut
  | cons e events ih =>
    obtain ⟨hfirst, hrest⟩ := noneSucceeds_cons_iff.mp h
    exact ih (isCarriedOut_step_of_none hcarriedOut hfirst) hrest

/-- A record of the program adds to each sink its share. -/
theorem adds_step
    (h : p.IsCarriedOut s.written.disk s.logging) (hr : isWithin "confdeploy" r.logger = true) :
  p.Adds (fun sink => sink.share r) s.written (s.step (.log r)).written
  := by
  have hadds := Written.adds_log h (Logging.reached_eq h hr)
  simp only [decide_eq_true_eq] at hadds
  apply hadds

/-- The last call that succeeds decides on the level and the sinks of the logging, whatever has
been before it and whichever calls have failed after it, and decides the same as if it had been
the only one.  Without such a call the logging stays as it is.  From then on a record of the
program is shown on the console exactly if it has a level and is at that of the console or above
it, and is written to the file exactly if it has one and is at that of the file or above it. -/
theorem settled_by_last_success
    (s : Process) (events : List Event) :
  (s.NoneSucceeds events → (s.after events).logging = s.logging)
    ∧ ∀ before p rest, events = before ++ .setup p :: rest →
      (s.after before).Succeeds p →
      (s.after (before ++ [.setup p])).NoneSucceeds rest →
        p.Decides (s.after before).written.disk (s.after events).logging
        ∧ (s.written.disk.IsTree → p.Decides s.written.disk (s.after events).logging)
        ∧ ∀ r, isWithin "confdeploy" r.logger = true →
          p.Adds (fun sink => sink.share r) (s.after events).written
            ((s.after events).step (.log r)).written
  := by
  use logging_after
  rintro before p rest rfl hsucceeds hnone
  have hafter : s.after (before ++ .setup p :: rest)
      = (s.after (before ++ [.setup p])).after rest := by
    simp [after]
  have hstep : s.after (before ++ [.setup p]) = (s.after before).step (.setup p) := by
    simp [after]
  rw [hstep] at hafter hnone
  rw [hafter]
  have hcarriedOut := isCarriedOut_after (isCarriedOut_step hsucceeds) hnone
  have hsince := ((s.after before).evolves_step (.setup p)).trans (evolves_after _ rest)
  have hbefore := s.evolves_after before
  have hopens := (Plan.isOk_setup_iff _).mp hsucceeds
  refine ⟨hcarriedOut.decides hsince.toKeeps hopens, ?_, fun r hr => adds_step hcarriedOut hr⟩
  intro htree
  apply hcarriedOut.decides (hbefore.trans hsince).toKeeps
  intro path hpath
  apply opens_of_evolves htree hbefore (hopens path hpath)

/-- A process that has logged nothing, on an empty disk. -/
def fresh : Process :=
  ⟨.initial, ⟨"", ⟨.empty, []⟩⟩⟩

theorem isTree_fresh :
  fresh.written.disk.IsTree
  := by
  constructor
  · rfl
  · exact List.not_mem_nil
  · intro place node h
    rw [node?] at h
    split at h
    · rename_i hroot
      rw [hroot]
      rfl
    · cases h

/-- The details for a file, and warnings for the console, since its level has no name. -/
def detailed : Plan :=
  { level := "loud", file := some "logs/run.log", fileLevel := some "debug" }

/-- Three calls: the first one has no file, and the last one fails, since there is a folder in the
place of its file. -/
def calls : List Event :=
  [.setup { level := "INFO" }, .setup detailed, .setup { file := some "logs" }]

/-- The second of three calls decides: a detail is written to the file, and is not shown on the
console. -/
theorem settled_by_last_success_detailed :
  (fresh.after [.setup { level := "INFO" }]).Succeeds detailed
    ∧ (fresh.after [.setup { level := "INFO" }, .setup detailed]).NoneSucceeds
        [.setup { file := some "logs" }]
    ∧ fresh.written.disk.IsTree
    ∧ detailed.Decides fresh.written.disk (fresh.after calls).logging
    ∧ ((fresh.after calls).step (.log ⟨"confdeploy.test", 10, 7, "detail", 0⟩)).written.console
      = ""
    ∧ ((fresh.after calls).step (.log ⟨"confdeploy.test", 10, 7, "detail", 0⟩)).written.disk.read
        ⟨"/", ["logs", "run.log"]⟩
      = .ok (.text "1970-01-01 00:00:00 DEBUG confdeploy.test:7 — detail\n")
  := by
  have hsucceeds : (fresh.after [.setup { level := "INFO" }]).Succeeds detailed := by
    decide +kernel
  have hnone : (fresh.after [.setup { level := "INFO" }, .setup detailed]).NoneSucceeds
      [.setup { file := some "logs" }] := by
    apply noneSucceeds_cons_iff.mpr
    constructor
    · rintro p ⟨⟩
      decide +kernel
    · apply noneSucceeds_nil
  obtain ⟨-, halone, hadds⟩ := (fresh.settled_by_last_success calls).2 [.setup { level := "INFO" }]
    detailed [.setup { file := some "logs" }] rfl hsucceeds hnone
  specialize hadds ⟨"confdeploy.test", 10, 7, "detail", 0⟩ (by decide)
  refine ⟨hsucceeds, hnone, isTree_fresh, halone isTree_fresh, ?_, ?_⟩
  · rw [hadds.console]
    decide +kernel
  · obtain ⟨content, hcontent, hadded⟩ := hadds.file ⟨"", ["logs", "run.log"]⟩ (by decide +kernel)
    have hplace : (fresh.after calls).written.disk.resolve ⟨"", ["logs", "run.log"]⟩
        = ⟨"/", ["logs", "run.log"]⟩ := by decide +kernel
    rw [hplace] at hcontent hadded
    have hempty : ((fresh.after calls).written.disk.read ⟨"/", ["logs", "run.log"]⟩).toOption
        = some (.text "") := by decide +kernel
    rw [hcontent.read] at hempty
    cases hempty
    rw [hadded.read]
    apply congrArg Except.ok
    decide +kernel

/-- A record without a level is not shown, although it is at the level of the console. -/
theorem notset_not_shown :
  isWithin "confdeploy" "confdeploy.test" = true
    ∧ fresh.Succeeds { level := "NOTSET" }
    ∧ (Plan.consoleLevel { level := "NOTSET" } : Int) ≤ 0
    ∧ ((fresh.step (.setup { level := "NOTSET" })).step
        (.log ⟨"confdeploy.test", 0, 1, "quiet", 0⟩)).written.console = ""
  := by decide +kernel

end Process

end Rollout.Log
