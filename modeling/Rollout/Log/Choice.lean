import Rollout.Log.Logging
import Rollout.Variables

/-!
# Choosing the logging

The switches of the command line take precedence over the level that is configured.
-/

namespace Rollout.Log

/-- The switches that choose the level. -/
structure Switches where
  /-- Show everything. -/
  debug : Bool := false
  /-- Show progress. -/
  verbose : Bool := false
  /-- Show failures alone. -/
  quiet : Bool := false
deriving DecidableEq, Repr

/-- The name of the level of the console. -/
def Switches.levelName (s : Switches) (configured : Option String) : String :=
  if s.debug then "DEBUG"
  else if s.verbose then "INFO"
  else if s.quiet then "ERROR"
  else (configured.bind nonempty?).getD "WARNING"

/-- The logging that switches, a configured level and variables ask for.  Without a
configured level the variable for it counts. -/
def Switches.plan (s : Switches) (vars : Variables) (configured : Option String) : Plan :=
  { level := s.levelName (configured <|> vars.find? "CONFDEPLOY_LOG_LEVEL")
    file := vars.find? "CONFDEPLOY_LOG_FILE"
    fileLevel := vars.find? "CONFDEPLOY_LOG_FILE_LEVEL"
    quietClients := !s.debug }

end Rollout.Log
