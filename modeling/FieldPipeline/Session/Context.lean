import FieldPipeline.Record

/-!
What one operation on a record works with.
-/

namespace FieldPipeline

inductive Mode where
  | create | update
  deriving DecidableEq, Repr

inductive Progress where
  | start | resolveExisting | perFieldFill | applyRoutine | postValidation | done | failed
  deriving DecidableEq, Repr

def Mode.name : Mode → String
  | .create => "create"
  | .update => "update"

def Mode.named? : String → Option Mode
  | "create" => some .create
  | "update" => some .update
  | _ => none

def Progress.name : Progress → String
  | .start => "start"
  | .resolveExisting => "resolve_existing"
  | .perFieldFill => "per_field_fill"
  | .applyRoutine => "apply_routine"
  | .postValidation => "post_validation_hooks"
  | .done => "done"
  | .failed => "failed"

structure Context where
  /-- What the caller gives. -/
  raw : Record := []
  /-- What will be written. -/
  latest : Record := []
  /-- The record before an update. -/
  existing : Option Record := none
  locale : Value := .null
  transaction : Option Nat := none
  /-- What identifies the record of an update. -/
  condition : Option Record := none
  mode : Option Mode := none
  progress : Progress := .start
  deriving Repr, Inhabited

namespace Context

/-- The current value of a field: the one to be written, or else the one before. -/
def lookUp? (c : Context) (name : String) : Option Value :=
  match c.latest.get? name with
  | some v => some v
  | none => c.existing.bind (·.get? name)

def former (c : Context) (name : String) : Value :=
  (c.existing.map (·.getOrNull name)).getD .null

def scope (c : Context) : Record :=
  (c.existing.getD []).update c.latest

def toRecord (c : Context) : Record :=
  let orNull {α : Type} (f : α → Value) (a : Option α) : Value := (a.map f).getD .null
  [("latest", c.latest.toValue), ("latest_order", .list (c.latest.names.map .text)),
    ("raw", c.raw.toValue), ("existing", orNull Record.toValue c.existing),
    ("where", orNull Record.toValue c.condition), ("mode", orNull (.text ·.name) c.mode),
    ("state", .text c.progress.name)]

end Context

end FieldPipeline
