import Rollout.Table

/-!
# Variables

The environment variables of the process, as a table of texts.
-/

namespace Rollout

/-- The variables of the process. -/
abbrev Variables := Table String String

end Rollout
