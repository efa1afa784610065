import Rollout.Settings.Load

/-!
# Ends of a command line

A command line may end before its command has done its work: because its parser ends it, because
a property is not written as one, or because something fails that no command expects.
-/

namespace Rollout.Cli

/-- A failure that no command expects. -/
inductive Crash (φ : Type) where
  /-- A file is no text. -/
  | notText
  /-- The disk refuses. -/
  | disk (fault : Disk.Fault)
  /-- A path holds a character that none may hold. -/
  | nulInPath
  /-- The text of the settings file is rejected. -/
  | rejected (reason : φ)
  /-- An integer has too many digits. -/
  | longInteger
deriving DecidableEq, Repr

/-- The failure of the disk, of which a path that none may be is one of its own. -/
def Crash.ofFault {φ : Type} : Disk.Fault → Crash φ
  | .nul => .nulInPath
  | fault => .disk fault

/-- Why there are no settings: a problem with them, which a command may report, or a
failure that no command expects. -/
def Crash.ofSettings {φ ε : Type} : Settings.Failure φ ε → Except (Settings.Problem ε) (Crash φ)
  | .problem p => .error p
  | .notText => .ok .notText
  | .disk fault => .ok (.disk fault)
  | .rejected reason => .ok (.rejected reason)

/-- Why a command line ends before its command has done its work. -/
inductive Stop (σ φ : Type) where
  /-- The parser ends it. -/
  | halt (h : σ)
  /-- A property is not written as a name and a value. -/
  | badProperty (pair : String)
  /-- Something fails. -/
  | crash (c : Crash φ)
deriving DecidableEq, Repr

end Rollout.Cli
