import Rollout.Text.Quoted

/-!
# Coordinates

A coordinate names a config by its project, its type and its id, and has a text form
in which the three are joined by colons.
-/

namespace Rollout

/-- The name of a config. -/
structure Coordinate where
  project : String
  type : String
  /-- The id, which is unique within the project and the type. -/
  id : String
deriving DecidableEq, Repr, Inhabited

namespace Coordinate

/-- The parts joined by colons. -/
def toText (c : Coordinate) : String :=
  c.project ++ ":" ++ c.type ++ ":" ++ c.id

/-- The text before the first `mark` and the text after it. -/
def splitAt? (mark : Char) : List Char → Option (List Char × List Char)
  | [] => none
  | c :: rest =>
    if c = mark then some ([], rest)
    else (splitAt? mark rest).map fun (before, after) => (c :: before, after)

/-- The coordinate that a text names: the first two colons separate its parts. -/
def parse? (s : String) : Option Coordinate := do
  let (project, rest) ← splitAt? ':' s.toList
  let (type, id) ← splitAt? ':' rest
  return ⟨String.ofList project, String.ofList type, String.ofList id⟩

/-- The wording for a text that is no coordinate. -/
def invalidMessage (s : String) : String :=
  s!"Invalid coordinate {Text.quote s}, expected 'project:type:config_id'"

end Coordinate

end Rollout
