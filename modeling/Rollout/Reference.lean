import Rollout.Coordinate

/-!
# References

A reference names a property of another config.
-/

namespace Rollout

/-- A property of a config. -/
structure Reference where
  /-- The config. -/
  target : Coordinate
  property : String
deriving DecidableEq, Repr, Inhabited

/-- The coordinate and the property, joined by a dot. -/
def Reference.toText (r : Reference) : String :=
  r.target.toText ++ "." ++ r.property

end Rollout
