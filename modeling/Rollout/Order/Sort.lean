import Rollout.Log.Line
import Rollout.Order.Graph

/-!
# Sorting configs

The configs of an environment in an order in which each comes after the ones it depends
on, or the loops that rule such an order out.  Each environment is sorted on its own.
-/

namespace Rollout

/-- The result of sorting. -/
structure Sorted where
  /-- The configs in order; none if there is a loop. -/
  configs : List Config
  /-- The loops. -/
  errors : List DeployError

/-- The items at a list of positions. -/
def pick {α : Type} (items : List α) (positions : List Nat) : List α :=
  positions.filterMap (items[·]?)

namespace Sorted

/-- The loops of a graph of configs, as errors. -/
def cycleErrors (configs : List Config) (g : Graph) (environment : String) : List DeployError :=
  g.loops.map fun members =>
    .ofCycle ((pick configs members).map Config.coordinate) (nonempty? environment)

/-- The configs of one environment, sorted. -/
def ofConfigs (configs : List Config) (environment : String) : Sorted :=
  let g := Graph.ofConfigs configs
  if g.order.length < configs.length then ⟨[], cycleErrors configs g environment⟩
  else ⟨pick configs g.order, []⟩

/-- The errors as lines of a log. -/
def log (errors : List DeployError) : Log :=
  errors.map (fun e => ⟨.error, e.toText⟩)

end Sorted

/-- The configs by their environments, in the order in which these first occur. -/
def byEnvironment (configs : List Config) : Table String (List Config) :=
  configs.foldl (fun groups c => groups.insert c.environment
    ((groups.find? c.environment).getD [] ++ [c])) .empty

/-- The sorted configs of the environments without loops, and the loops of the others. -/
structure SortedEnvironments where
  /-- The configs of each environment without loops, in order. -/
  configs : Table String (List Config)
  /-- The loops of the others. -/
  errors : List DeployError

/-- The configs of every environment, sorted. -/
def SortedEnvironments.ofConfigs (configs : List Config) : SortedEnvironments :=
  let sorted := fun environment configs => Sorted.ofConfigs configs environment
  let groups := byEnvironment configs
  { configs := groups.filterMap fun environment configs =>
      let s := sorted environment configs
      if s.errors.isEmpty then some s.configs else none
    errors := groups.entries.flatMap (fun (environment, configs) =>
      (sorted environment configs).errors) }

end Rollout
