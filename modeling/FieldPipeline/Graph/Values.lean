import FieldPipeline.Graph.Order
import FieldPipeline.Value.Text
import FieldPipeline.Value.Equality

/-!
Values as the nodes of a graph.  Values that can change are refused.
-/

namespace FieldPipeline

instance : BEq Value where
  beq := Value.same

instance : Node Value where
  usable := Value.isHashable

namespace Graph

def dependentsNamed : Value → List Value
  | .list xs | .tuple xs | .set xs => xs
  | v => [v]

def addRow (g : Graph Value) (row : Value × Value) : Graph Value × Option (GraphError Value) :=
  match row.2.members? with
  | none => (g, some (.unusable row.2))
  | some ds => ds.foldl (fun state d =>
      match state with
      | (g, none) => g.addEdges d [row.1]
      | failed => failed) (g, none)

/-- The graph of a table of nodes and what each depends on.  The nodes of the table have the
lowest ranks. -/
def ofTable (table : List (Value × Value)) : Graph Value × Option (GraphError Value) :=
  let named := table.foldl (fun g row => g.register row.1) empty
  table.foldl (fun state row =>
    match state with
    | (g, none) => g.addRow row
    | failed => failed) (named, none)

end Graph

def GraphError.message? : GraphError Value → Option String
  | .selfDependency node => some ("Node " ++ node.written ++ " cannot depend on itself")
  | .unusable _ => none

end FieldPipeline
