import Rollout.Settings.Basic

/-!
# Dialects

The language of settings files is not fixed.  A dialect says what a piece of data is, how a text
is parsed, and how the entries of a map are validated as settings.
-/

namespace Rollout.Settings

/-- A piece of data at first glance. -/
inductive View (V : Type) where
  /-- There is none. -/
  | nothing
  /-- It is a map, with these entries in order. -/
  | map (entries : List (V × V))
  /-- It is something else, of some type. -/
  | other (typeName : String)

/-- A language of settings files, with `V` for its data, `φ` for the reasons for which a text is
rejected, and `ε` for those for which the entries of a map are. -/
structure Dialect (V φ ε : Type) where
  /-- The text that a piece of data is. -/
  text? : V → Option String
  /-- A text as a piece of data. -/
  ofText : String → V
  /-- A truth value as a piece of data. -/
  ofBool : Bool → V
  text?_ofText : ∀ s, text? (ofText s) = some s
  view : V → View V
  /-- The piece of data that a text spells. -/
  parse : List Char → Except φ V
  /-- Whether a text is rejected because it is not of the language. -/
  isMalformed : φ → Bool
  /-- The settings that the entries of a map amount to. -/
  validate : List (V × V) → Except ε Settings

namespace Dialect

variable {V φ ε : Type} (d : Dialect V φ ε)

/-- What a map holds under a text. -/
def find? (name : String) : List (V × V) → Option V
  | [] => none
  | (key, v) :: rest => if d.text? key = some name then some v else find? name rest

/-- The entries of a map with `v` under a text, in the place of the old value or at the
end. -/
def setEntry (name : String) (v : V) : List (V × V) → List (V × V)
  | [] => [(d.ofText name, v)]
  | (key, w) :: rest =>
    if d.text? key = some name then (key, v) :: rest else (key, w) :: setEntry name v rest

/-- What is under a text once something has been put there. -/
@[simp]
theorem find?_setEntry
    (key name : String) (v : V) (entries : List (V × V)) :
  d.find? key (d.setEntry name v entries) = if name = key then some v else d.find? key entries
  := by
  induction entries with
  | nil => simp [setEntry, find?, d.text?_ofText]
  | cons e rest ih =>
    obtain ⟨k, w⟩ := e
    rw [setEntry]
    split
    · rename_i hname
      simp only [find?, hname, Option.some.injEq]
      split
      · rfl
      · rfl
    · rename_i hother
      simp only [find?, ih]
      split
      · rename_i hkey
        rw [if_neg]
        rintro rfl
        exact hother hkey
      · rfl

end Dialect

end Rollout.Settings
