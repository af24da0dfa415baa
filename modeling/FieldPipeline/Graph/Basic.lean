/-!
Dependency graphs.  A node keeps the rank at which it was first named, as a node of its own or
as an end of an edge.
-/

namespace FieldPipeline

/-- What a graph asks of its nodes besides equality: whether a node may be registered. -/
class Node (α : Type) where
  usable : α → Bool

instance : Node String where
  usable _ := true

inductive GraphError (α : Type) where
  | selfDependency (node : α)
  | unusable (node : α)
  deriving DecidableEq, Repr

structure Graph (α : Type) where
  ranks : List (α × Nat)
  /-- The nodes that depend on a node, in the order in which the edges came. -/
  dependents : List (α × List α)
  /-- The nodes that a node depends on. -/
  dependencies : List (α × List α)
  deriving Repr

namespace Graph

variable {α : Type} [BEq α] [Node α]

def empty : Graph α := ⟨[], [], []⟩

def nodes (g : Graph α) : List α :=
  g.ranks.map Prod.fst

def isRegistered (g : Graph α) (node : α) : Bool :=
  g.nodes.any (· == node)

def listed (node : α) : List (α × List α) → List α
  | [] => []
  | (key, ns) :: rest => if key == node then ns else listed node rest

def enlist (node added : α) : List (α × List α) → List (α × List α)
  | [] => [(node, [added])]
  | (key, ns) :: rest =>
    if key == node then (key, ns ++ [added]) :: rest else (key, ns) :: enlist node added rest

def dependenciesOf (g : Graph α) (node : α) : List α :=
  listed node g.dependencies

def dependentsOf (g : Graph α) (node : α) : List α :=
  listed node g.dependents

def register (g : Graph α) (node : α) : Graph α :=
  if g.isRegistered node then g else { g with ranks := g.ranks ++ [(node, g.ranks.length)] }

def addNode (g : Graph α) (node : α) : Except (GraphError α) (Graph α) :=
  if Node.usable node then .ok (g.register node) else .error (.unusable node)

def link (g : Graph α) (dependency dependent : α) : Graph α :=
  if (g.dependenciesOf dependent).any (· == dependency) then g
  else { g with
    dependents := enlist dependency dependent g.dependents
    dependencies := enlist dependent dependency g.dependencies }

def addEdge (g : Graph α) (dependency dependent : α) : Except (GraphError α) (Graph α) :=
  if dependent == dependency then .error (.selfDependency dependency)
  else if Node.usable dependent then .ok ((g.register dependent).link dependency dependent)
  else .error (.unusable dependent)

/-- Adds the edges to several dependents, one after the other.  The first that cannot be added
ends the work, and the graph keeps what was added before it. -/
def addEdgesTo (g : Graph α) (dependency : α) : List α → Graph α × Option (GraphError α)
  | [] => (g, none)
  | dependent :: rest =>
    match g.addEdge dependency dependent with
    | .ok g => addEdgesTo g dependency rest
    | .error e => (g, some e)

def addEdges (g : Graph α) (dependency : α) (dependents : List α) :
    Graph α × Option (GraphError α) :=
  match g.addNode dependency with
  | .ok g => g.addEdgesTo dependency dependents
  | .error e => (g, some e)

end Graph

end FieldPipeline
