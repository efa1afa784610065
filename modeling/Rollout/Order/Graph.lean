import Rollout.Config

/-!
# Dependency graphs

The configs of a list depend on each other through their references.  The graph has a
node for each position of the list, and holds for each node the nodes that it depends
on.  Every node counts the nodes that it waits for.  Placing, again and again, the first
node that waits for none gives an order of all nodes unless some of them depend on each
other in a loop.
-/

namespace Rollout

/-- A graph, as for each node the nodes that it depends on. -/
structure Graph where
  /-- The nodes that each node depends on, in the order in which they are followed. -/
  dependencies : List (List Nat)
deriving DecidableEq, Repr

namespace Graph

/-- The number of nodes. -/
def size (g : Graph) : Nat :=
  g.dependencies.length

/-- The nodes that a node depends on. -/
def needs (g : Graph) (node : Nat) : List Nat :=
  g.dependencies.getD node []

/-- The positions at which a config of the given coordinate stands. -/
def positionsOf (configs : List Config) (c : Coordinate) : List Nat :=
  (List.range configs.length).filter (fun i => configs[i]?.map Config.coordinate == some c)

/-- The positions of the configs that the config at a position depends on. -/
def dependenciesOf (configs : List Config) (position : Nat) (c : Config) : List Nat :=
  let targets := c.references.filter (· ≠ c.coordinate)
  Template.distinct ((targets.flatMap (positionsOf configs)).filter (· ≠ position))

/-- The graph of a list of configs. -/
def ofConfigs (configs : List Config) : Graph :=
  ⟨configs.zipIdx.map (fun (c, i) => dependenciesOf configs i c)⟩

/-- The nodes that depend on a node, in order, each as often as it does. -/
def dependents (g : Graph) (node : Nat) : List Nat :=
  (List.range g.size).flatMap (fun i => List.replicate ((g.needs i).count node) i)

end Graph

/-- How far the placement of the nodes of a graph has come. -/
structure Placement where
  /-- For each node, how many of its dependencies are not placed. -/
  waiting : List Nat
  /-- The nodes that are not placed and wait for none. -/
  ready : List Nat
  /-- The nodes that are placed, in the order in which they were. -/
  placed : List Nat

namespace Placement

/-- The placement in which a node waits for one dependency less.  Once it waits for none
it is ready. -/
def release (p : Placement) (node : Nat) : Placement :=
  let left := p.waiting.getD node 0 - 1
  { p with
    waiting := p.waiting.set node left
    ready := if left = 0 then node :: p.ready else p.ready }

/-- The placement with a ready node placed and the nodes that depend on it released. -/
def place (p : Placement) (node : Nat) (dependents : List Nat) : Placement :=
  dependents.foldl release { p with ready := p.ready.erase node, placed := p.placed ++ [node] }

end Placement

namespace Graph

/-- The placement in front of the first node. -/
def unplaced (g : Graph) : Placement :=
  { waiting := g.dependencies.map List.length
    ready := (List.range g.size).filter (fun i => (g.needs i).isEmpty)
    placed := [] }

/-- The placement with up to `more` further nodes placed, each time the first ready one. -/
def placeReady (g : Graph) : (more : Nat) → Placement → Placement
  | 0, p => p
  | more + 1, p =>
    match p.ready.min? with
    | none => p
    | some node => g.placeReady more (p.place node (g.dependents node))

/-- The nodes that can be placed, in the order in which they are placed. -/
def order (g : Graph) : List Nat :=
  (g.placeReady g.size g.unplaced).placed

/-- The nodes that cannot be placed, in order. -/
def remaining (g : Graph) : List Nat :=
  let placed := g.order
  (List.range g.size).filter (fun i => !placed.contains i)

/-- The first of the nodes that a node depends on which cannot be placed. -/
def step? (g : Graph) (node : Nat) : Option Nat :=
  (g.needs node).find? g.remaining.contains

/-- The walk from a node along the first dependencies that cannot be placed.  It ends in
front of a node that it has been to or that was visited before; it gives the nodes it
has been to and the node that it ends in front of. -/
def walk (g : Graph) (visited : List Nat) : (more : Nat) → (path : List Nat) → (node : Nat) →
    List Nat × Option Nat
  | 0, path, _ => (path, none)
  | more + 1, path, node =>
    if path.contains node || visited.contains node then (path, some node)
    else match g.step? node with
      | none => (path ++ [node], none)
      | some next => g.walk visited more (path ++ [node]) next

/-- The loop that a walk ran into, if it came back to one of its own nodes and that node
is in no loop that is known already. -/
def loop? (looped : List Nat) : List Nat × Option Nat → Option (List Nat)
  | (path, some node) =>
    if path.contains node && !looped.contains node then some (path.dropWhile (· ≠ node))
    else none
  | (_, none) => none

/-- The loops that the walks from a list of nodes run into, each walk leaving out the
nodes that were visited before it and the loops that are known already. -/
def loopsFrom (g : Graph) : (visited looped : List Nat) → (starts : List Nat) → List (List Nat)
  | _, _, [] => []
  | visited, looped, start :: rest =>
    if visited.contains start then g.loopsFrom visited looped rest
    else
      let trip := g.walk visited (g.size + 1) [] start
      match loop? looped trip with
      | none => g.loopsFrom (visited ++ trip.1) looped rest
      | some loop => loop :: g.loopsFrom (visited ++ trip.1) (looped ++ loop) rest

/-- The loops among the nodes that cannot be placed. -/
def loops (g : Graph) : List (List Nat) :=
  g.loopsFrom [] [] g.remaining

end Graph

end Rollout
