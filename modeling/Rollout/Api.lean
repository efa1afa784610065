import Rollout.Table

/-!
# Classic APIs

The catalog of the APIs for classic configs.  It says whether the configs of an API are
told apart by their names, and whether another API replaces it.
-/

namespace Rollout

/-- An API for classic configs. -/
structure Api where
  /-- The identifier. -/
  id : String
  /-- The path under which the platform serves it. -/
  urlPath : String
  /-- The API that replaces it, or nothing. -/
  deprecatedBy : String
  /-- Whether several configs may share a name. -/
  nonUniqueName : Bool
deriving DecidableEq, Repr, Inhabited

namespace Api

/-- Whether another API replaces this one. -/
def isDeprecated (api : Api) : Bool :=
  api.deprecatedBy != ""

/-- Whether the name of a config identifies it. -/
def requiresUniqueName (api : Api) : Bool :=
  !api.nonUniqueName

end Api

/-- The known APIs by their identifiers. -/
abbrev Catalog := Table String Api

namespace Catalog

/-- The catalog of a list of APIs; of two with one identifier, the later one counts. -/
def ofApis (apis : List Api) : Catalog :=
  Table.ofList (apis.map (fun api => (api.id, api)))

end Catalog

end Rollout
