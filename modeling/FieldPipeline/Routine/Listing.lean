import FieldPipeline.Record
import FieldPipeline.Routine.Basic

/-!
Routines as data and as text for readers.
-/

namespace FieldPipeline

namespace Operation

def line (o : Operation) : String :=
  let separator := if o.kind = .validator then " & " else " | "
  "      " ++ o.kind.name ++ ": " ++ separator.intercalate o.names

def toRecord (o : Operation) : Record :=
  [("kind", .text o.kind.name), ("modifiers", .list (o.names.map .text))]

end Operation

namespace Group

def guardText (g : Group) : String :=
  let fields := ", ".intercalate g.requiredFields
  (if g.requireTarget then "target, " else "") ++ (if fields.isEmpty then "-" else fields)

def lines (g : Group) (place : Nat) : List String :=
  ("  [" ++ toString place ++ "] " ++ g.target ++ " (requires " ++ g.guardText ++ ")")
    :: g.operations.map Operation.line

def toRecord (describe : Operation → Record) (g : Group) : Record := [
  ("target", .text g.target),
  ("required_fields", .list (g.requiredFields.map .text)),
  ("require_target_present", .bool g.requireTarget),
  ("operations", .list (g.operations.map fun o => (describe o).toValue))]

end Group

namespace Routine

def toRecord (describe : Operation → Record) (r : Routine) : Record := [
  ("entity", .text r.entity),
  ("order", .list (r.order.map .text)),
  ("groups", .list (r.groups.map fun g => (g.toRecord describe).toValue))]

def listing (r : Routine) : String :=
  if r.isEmpty then r.entity ++ ": (no modifiers)"
  else
    let groups := r.groups.zipIdx.flatMap fun (g, place) => g.lines place
    "\n".intercalate ((r.entity ++ ":") :: groups)

end Routine

end FieldPipeline
