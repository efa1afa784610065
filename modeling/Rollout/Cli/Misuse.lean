/-!
# Misuse

What a command line amounts to that does not get as far as a command: help or the version is asked
for, or the words make no sense.
-/

namespace Rollout.Cli

/-- What is wrong with the words of a command line. -/
inductive Misuse where
  /-- There is no such option. -/
  | unknownOption (name : String)
  /-- An option is given a value that takes none. -/
  | unexpectedValue (name : String)
  /-- An option has no value that needs one. -/
  | missingValue (name : String)
  /-- There are no words at all where a command is expected. -/
  | noWords
  /-- There is no command behind the options. -/
  | noCommand
  /-- There is no such command. -/
  | unknownCommand (name : String)
  /-- A word is left over. -/
  | unexpectedWord (word : String)
  /-- The template is not named. -/
  | noTemplate
  /-- The template is no file. -/
  | templateNotFile (path : String)
deriving DecidableEq, Repr

/-- What to tell about a misuse. -/
def Misuse.message : Misuse → String
  | .unknownOption name => s!"there is no option {name}"
  | .unexpectedValue name => s!"option {name} takes no value"
  | .missingValue name => s!"option {name} needs a value"
  | .noWords => "a command is needed"
  | .noCommand => "a command is needed"
  | .unknownCommand name => s!"there is no command {name}"
  | .unexpectedWord word => s!"nothing is expected at {word}"
  | .noTemplate => "a template is needed"
  | .templateNotFile path => s!"there is no file {path}"

/-- What the words of a command line are ended with instead of a task. -/
inductive Halt where
  /-- Help is asked for. -/
  | help
  /-- The version is asked for. -/
  | version
  /-- The words make no sense. -/
  | misuse (m : Misuse)
  /-- A path holds a character that none may hold. -/
  | nulInPath
deriving DecidableEq, Repr

end Rollout.Cli
