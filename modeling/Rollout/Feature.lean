import Rollout.Text.Blank
import Rollout.Variables

/-!
# Feature flags

A flag is a switch that is read from a variable.  An override, for instance from the
settings, takes precedence over the variable.
-/

namespace Rollout

/-- The truth value that a word of a variable stands for, in any letter case and with
blanks around it.  Every word has ASCII letters alone, and no other character has one of
its letters as its lower case. -/
def Text.switch? (s : String) : Option Bool :=
  let word := String.ofList ((Text.trimChars s.toList).map Char.toLower)
  if word ∈ ["1", "true", "yes", "on"] then some true
  else if word ∈ ["0", "false", "no", "off"] then some false
  else none

/-- A switch that is read from a variable. -/
structure Feature where
  /-- The variable. -/
  var : String
  /-- What holds if the variable says nothing. -/
  default : Bool
  /-- What holds whatever the variable says. -/
  override : Option Bool
deriving DecidableEq, Repr, Inhabited

namespace Feature

/-- Whether a feature is enabled. -/
def enabled (vars : Variables) (f : Feature) : Bool :=
  match f.override with
  | some b => b
  | none => (Text.switch? ((vars.find? f.var).getD "")).getD f.default

/-- The feature with another override. -/
def withOverride (f : Feature) (override : Option Bool) : Feature :=
  { f with override }

/-- The switch for the deployment of automation resources. -/
def automationResources : Feature :=
  ⟨"CONFDEPLOY_FEATURE_AUTOMATION_RESOURCES", false, none⟩

/-- The features that the settings may override, by name. -/
def known : List (String × Feature) :=
  [("automation_resources", automationResources)]

/-- The feature of a name. -/
def named? (name : String) : Option Feature :=
  known.lookup name

end Feature

end Rollout
