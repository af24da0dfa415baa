import FieldPipeline.Graph.Basic

/-!
Ordering the nodes of a graph so that each stands behind everything it depends on.  A node may
come next when none of its dependencies is left; of the nodes that may, the one of lowest rank
does.
-/

namespace FieldPipeline

inductive SortError (α : Type) where
  /-- The nodes wait for one another. -/
  | circular (nodes : List α)
  /-- A table of nodes has nothing about a node. -/
  | unregistered (node : α)
  deriving DecidableEq, Repr

structure Sorting (α : Type) where
  /-- How many dependencies each node has left. -/
  degrees : List (α × Int)
  /-- The nodes that may come next under their ranks, the lowest rank first. -/
  ready : List (Nat × α)
  done : List α
  deriving Repr

namespace Sorting

variable {α : Type} [BEq α]

def look {β : Type} (node : α) (table : List (α × β)) : Except (SortError α) β :=
  match table.lookup node with
  | some b => .ok b
  | none => .error (.unregistered node)

def enqueue (entry : Nat × α) : List (Nat × α) → List (Nat × α)
  | [] => [entry]
  | first :: rest =>
    if entry.1 < first.1 then entry :: first :: rest else first :: enqueue entry rest

def lower (s : Sorting α) (node : α) : Sorting α :=
  { s with degrees := s.degrees.map fun d => if d.1 == node then (d.1, d.2 - 1) else d }

def push (s : Sorting α) (rank : Nat) (node : α) : Sorting α :=
  { s with ready := enqueue (rank, node) s.ready }

def waiting (s : Sorting α) : List α :=
  (s.degrees.filter fun d => d.2 != 0).map Prod.fst

end Sorting

namespace Graph

variable {α : Type} [BEq α] [Node α]

def rank? (g : Graph α) (node : α) : Option Nat :=
  g.ranks.lookup node

def degreeOf (g : Graph α) (node : α) : Int :=
  (g.dependenciesOf node).length

def begun (g : Graph α) : Sorting α where
  degrees := g.nodes.map fun n => (n, g.degreeOf n)
  ready := (g.ranks.filter fun r => g.degreeOf r.1 == 0).map Prod.swap
  done := []

def release (g : Graph α) (s : Sorting α) (node : α) : Except (SortError α) (Sorting α) := do
  let degree ← Sorting.look node s.degrees
  if degree - 1 = 0 then
    let rank ← Sorting.look node g.ranks
    return (s.lower node).push rank node
  else
    return s.lower node

def finish (g : Graph α) (s : Sorting α) (node : α) : Except (SortError α) (Sorting α) :=
  (g.dependentsOf node).foldlM g.release { s with done := s.done ++ [node] }

/-- At most `steps` further nodes, the lowest first of those that may come next. -/
def advance (g : Graph α) : Nat → Sorting α → Except (SortError α) (Sorting α)
  | 0, s => .ok s
  | steps + 1, s =>
    match s.ready with
    | [] => .ok s
    | (_, node) :: rest => do advance g steps (← g.finish { s with ready := rest } node)

/-- All nodes in order, or else those that wait for one another. -/
def sort (g : Graph α) : Except (SortError α) (List α) := do
  let s ← g.advance g.nodes.length g.begun
  if s.done.length = g.nodes.length then return s.done else throw (.circular s.waiting)

def cycleText (names : List String) : String :=
  "At least 1 circular dependency in nodes:\n\n" ++ "\n".intercalate names
    ++ "\n\nGraph cannot be sorted!"

end Graph

end FieldPipeline
