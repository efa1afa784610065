/-!
# Log lines

The lines that a run reports its progress with, oldest first.
-/

namespace Rollout

/-- How grave a line is. -/
inductive Gravity where
  | info
  | warning
  | error
deriving DecidableEq, Repr

/-- The word for a gravity. -/
def Gravity.word : Gravity → String
  | .info => "INFO"
  | .warning => "WARNING"
  | .error => "ERROR"

/-- A line of a log. -/
structure LogLine where
  /-- How grave it is. -/
  gravity : Gravity
  /-- What it tells. -/
  message : String
deriving DecidableEq, Repr

/-- The lines of a log, oldest first. -/
abbrev Log := List LogLine

/-- The word for the gravity and the message. -/
def LogLine.toText (line : LogLine) : String :=
  line.gravity.word ++ " " ++ line.message

end Rollout
