import Rollout.Files.Disk
import Rollout.Log.Record
import Rollout.Text.Blank

/-!
# Logging

Records are shown on the console and, if one is chosen, written to a file; each of the two
has a level of its own.  Setting the logging up again replaces what was there before, and a
file that cannot be opened leaves it as it was.
-/

namespace Rollout.Log

/-- Where lines go. -/
inductive Target where
  | console
  | file (path : Path)
deriving DecidableEq, Repr

/-- A place for lines with the level from which on it takes records. -/
structure Sink where
  /-- Where its lines go. -/
  target : Target
  /-- The least level that it takes. -/
  level : Nat
  /-- What its lines show. -/
  layout : Layout
deriving DecidableEq, Repr

/-- How records are logged. -/
structure Logging where
  /-- The least level of records that are passed on at all. -/
  level : Nat
  /-- Where they are passed on to. -/
  sinks : List Sink
  /-- Whether the libraries of remote clients are kept quiet. -/
  clientsQuiet : Bool
deriving DecidableEq, Repr

/-- What the logging should be. -/
structure Plan where
  /-- The name of the level of the console. -/
  level : String := "WARNING"
  /-- The file, unless it is empty. -/
  file : Option String := none
  /-- The name of the level of the file, unless it is that of the console. -/
  fileLevel : Option String := none
  /-- Whether the libraries of remote clients are kept quiet. -/
  quietClients : Bool := true
deriving DecidableEq, Repr

namespace Plan

/-- The level of the console. -/
def consoleLevel (p : Plan) : Nat :=
  levelOf p.level

/-- The file. -/
def path? (p : Plan) : Option Path :=
  (p.file.bind nonempty?).map Path.ofText

/-- The level of the file. -/
def levelOfFile (p : Plan) : Nat :=
  match p.fileLevel.bind nonempty? with
  | some name => levelOf name
  | none => p.consoleLevel

/-- The console as a sink. -/
def consoleSink (p : Plan) : Sink :=
  ⟨.console, p.consoleLevel, .ofLevel p.consoleLevel⟩

/-- The file as a sink, at a place without double dots. -/
def fileSink (p : Plan) (place : Path) : Sink :=
  ⟨.file place, p.levelOfFile, .dated⟩

/-- Whether a plan keeps the libraries of remote clients quiet: it does not if it shows
everything. -/
def quietsClients (p : Plan) : Bool :=
  p.quietClients && debug < p.consoleLevel

end Plan

/-- The loggers of libraries that remote clients use. -/
def clientLoggers : List String :=
  ["urllib3", "requests", "httpx", "httpcore"]

/-- Whether a logger is the one of a name or below it. -/
def isWithin (name logger : String) : Bool :=
  logger == name || (name ++ ".").toList.isPrefixOf logger.toList

/-- Opens a file for the log, which makes it and the folders on the way to it unless they
are there.  Folders that have been made before a failure stay. -/
def openFile (disk : Disk) (path : Path) : Disk × Except Disk.Fault Path :=
  match disk.ensureFolder path.parent with
  | (disk, some fault) => (disk, .error fault)
  | (disk, none) =>
    let place := disk.resolve path
    match disk.append place "" with
    | .error fault => (disk, .error fault)
    | .ok disk => (disk, .ok place)

namespace Logging

/-- The logging before it has been set up. -/
def initial : Logging :=
  ⟨warning, [], false⟩

/-- Takes a sink away. -/
def remove (l : Logging) (sink : Sink) : Logging :=
  { l with sinks := l.sinks.erase sink }

/-- Adds a sink behind the others. -/
def add (l : Logging) (sink : Sink) : Logging :=
  { l with sinks := l.sinks ++ [sink] }

/-- Takes all sinks away, adds others, and passes on whatever one of these takes. -/
def install (l : Logging) (first : Sink) (more : List Sink) : Logging :=
  { (first :: more).foldl add (l.sinks.foldl remove l) with
    level := more.foldl (fun level sink => min level sink.level) first.level }

/-- Keeps the libraries of remote clients quiet if a plan does.  Those that are quiet already
stay so. -/
def quiet (l : Logging) (p : Plan) : Logging :=
  { l with clientsQuiet := l.clientsQuiet || p.quietsClients }

/-- Sets the logging up.  The file is opened before anything is taken away. -/
def setup (l : Logging) (p : Plan) (disk : Disk) : Disk × Except Disk.Fault Logging :=
  match p.path? with
  | none => (disk, .ok ((l.install p.consoleSink []).quiet p))
  | some path =>
    match openFile disk path with
    | (disk, .error fault) => (disk, .error fault)
    | (disk, .ok place) => (disk, .ok ((l.install p.consoleSink [p.fileSink place]).quiet p))

/-- What is added to a logging comes behind its sinks, and nothing else changes. -/
theorem foldl_add
    (l : Logging) (sinks : List Sink) :
  sinks.foldl add l = { l with sinks := l.sinks ++ sinks }
  := by
  induction sinks generalizing l with
  | nil => rw [List.append_nil, List.foldl_nil]
  | cons sink sinks ih => rw [List.foldl_cons, ih, add, List.append_assoc, List.singleton_append]

/-- To take each sink away leaves none, and nothing else changes. -/
theorem foldl_remove
    (l : Logging) :
  l.sinks.foldl remove l = { l with sinks := [] }
  := by
  obtain ⟨level, sinks, clientsQuiet⟩ := l
  dsimp only
  induction sinks with
  | nil => rfl
  | cons sink sinks ih => rw [List.foldl_cons, remove, List.erase_cons_head, ih]

/-- What is installed replaces what was there. -/
theorem install_eq
    (l : Logging) (first : Sink) (more : List Sink) :
  l.install first more
    = { level := more.foldl (fun level sink => min level sink.level) first.level
        sinks := first :: more
        clientsQuiet := l.clientsQuiet }
  := by
  rw [install, foldl_remove, foldl_add, List.nil_append]

/-- The level of its own that a logger has. -/
def ownLevel? (l : Logging) (logger : String) : Option Nat :=
  if l.clientsQuiet && clientLoggers.any (fun name => isWithin name logger) then some warning
  else none

/-- Whether a record is passed on.  One without a level never is. -/
def passes (l : Logging) (r : Record) : Bool :=
  0 < r.level && (l.ownLevel? r.logger).getD l.level ≤ r.level

/-- The sinks for records: before the logging has been set up, problems go to the
console. -/
def sinksInUse (l : Logging) : List Sink :=
  if l.sinks.isEmpty then [⟨.console, warning, .bare⟩] else l.sinks

/-- The sinks that a record reaches. -/
def reached (l : Logging) (r : Record) : List Sink :=
  if l.passes r then l.sinksInUse.filter (fun sink => sink.level ≤ r.level) else []

end Logging

/-- What has been logged: the text on the console, and the disk with the files. -/
structure Written where
  /-- The text on the console. -/
  console : String
  disk : Disk

namespace Written

/-- Adds a line to a target.  A line for a file that is gone is lost. -/
def add (w : Written) (target : Target) (line : String) : Written :=
  match target with
  | .console => { w with console := w.console ++ line ++ "\n" }
  | .file path =>
    match w.disk.append path (line ++ "\n") with
    | .ok disk => { w with disk }
    | .error _ => w

/-- Logs a record. -/
def log (l : Logging) (w : Written) (r : Record) : Written :=
  (l.reached r).foldl (fun w sink => w.add sink.target (sink.layout.text r)) w

end Written

end Rollout.Log
