import Rollout.Coordinate
import Rollout.Value

/-!
# Entities

What a config leaves behind once it has been deployed or skipped, and the two indexes
that are kept of this in each environment.
-/

namespace Rollout

/-- What a config left behind. -/
structure Entity where
  name : String
  /-- The config. -/
  coordinate : Coordinate
  /-- The properties that other configs may refer to. -/
  properties : Properties
  /-- Whether the config was skipped. -/
  skip : Bool
deriving Inhabited

/-- The entities of an environment by their coordinates. -/
abbrev Registry := Table Coordinate Entity

/-- The names that configs have been deployed under, by the identifiers of their APIs. -/
abbrev NameIndex := Table String (List String)

namespace NameIndex

/-- The names that are taken in an API. -/
def names (index : NameIndex) (api : String) : List String :=
  (index.find? api).getD []

/-- Whether a name is taken in an API. -/
def has (index : NameIndex) (api name : String) : Bool :=
  (index.names api).contains name

/-- The index in which a name is taken in an API. -/
def add (index : NameIndex) (api name : String) : NameIndex :=
  index.insert api (if index.has api name then index.names api else index.names api ++ [name])

end NameIndex

end Rollout
