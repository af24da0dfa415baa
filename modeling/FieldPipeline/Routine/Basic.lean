import FieldPipeline.Expression.Check
import FieldPipeline.Modifier.Basic

/-!
Routines: what is done, in order, with the fields of a record.  A routine consists of groups
under one guard each, a group of operations, and an operation of calls of modifiers.
-/

namespace FieldPipeline

structure Call where
  modifier : Modifier
  args : List Value := []
  /-- Only when this condition holds does an activator apply. -/
  condition : Option String := none

/-- One use of a modifier on a field. -/
structure Token where
  id : String
  kind : ModifierKind
  target : String
  /-- The other fields that the use reads, in order of their names, each once. -/
  references : List String
  chainable : Bool
  call : Call
  position : Nat

/-- Calls of one kind on one field.  Validators must all accept, processors work one on the
result of the other, and of activators the last one that applies counts. -/
structure Operation where
  kind : ModifierKind
  target : String
  references : List String
  calls : List Call
  tokenIds : List String

/-- Operations that run under the same conditions. -/
structure Group where
  target : String
  requiredFields : List String
  /-- Whether the target must have a value. -/
  requireTarget : Bool
  operations : List Operation

structure Routine where
  entity : String
  groups : List Group := []
  /-- All tokens in the order in which they take effect. -/
  order : List String := []

def Operation.names (o : Operation) : List String :=
  o.calls.map (·.modifier.name)

def Routine.isEmpty (r : Routine) : Bool :=
  r.groups.isEmpty

end FieldPipeline
