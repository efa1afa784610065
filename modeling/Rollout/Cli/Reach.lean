import Rollout.Cli.Words
import Rollout.Settings.Load

/-!
# Reach

The paths that a command line may look at or write to, so that no more of the disk needs to
be known.
-/

namespace Rollout.Cli

/-- The paths to the settings file, seen from a folder. -/
def settingsPaths (folder : List String) (globals : Globals) : List Path :=
  match globals.path? with
  | some path => [path]
  | none => Settings.candidates Settings.searchLimit folder

/-- The path to the template. -/
def templatePaths : Command → (words : List String) → List Path
  | .render, words =>
    match readRendering words with
    | .error _ => []
    | .ok (_, others) => (others.take 1).map Path.ofText
  | _, _ => []

/-- The paths that a command line may look at or write to, seen from a folder. -/
def reach (vars : Variables) (folder words : List String) : List Path :=
  match Invocation.ofWords words with
  | .error _ => []
  | .ok ⟨globals, command, words⟩ =>
    settingsPaths folder globals ++ templatePaths command words
      ++ (globals.switches.plan vars none).path?.toList

end Rollout.Cli
