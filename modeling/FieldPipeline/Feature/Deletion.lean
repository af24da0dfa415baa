import FieldPipeline.Feature.Basic

/-!
Deletion by a flag: a record is not removed but marked.  The flag is a field of its own, or one
of the declared fields with a value that marks the record.
-/

namespace FieldPipeline.Feature

namespace Deletion

def optionsOf (field value : Value) (isNew : Bool) : Value :=
  Record.toValue [("field", field), ("value", value), ("new_field", .bool isNew)]

def normalize : Value → Except Failure Value
  | .null | .text "" => .ok (optionsOf (.text "is_deleted") (.bool true) true)
  | .text name => .ok (optionsOf (.text name) (.bool true) true)
  | .dict [(name, value)] => .ok (optionsOf name value false)
  | options => .error (.feature (.deletionOptions options))

def mark (options : Value) : Value × Value :=
  ((options.under? "field").getD .null, (options.under? "value").getD .null)

def flagField (name : String) : FieldDeclaration where
  name := name
  type := "boolean"
  default := .bool false
  readOnly := true
  given := ["name", "type", "read_only", "default"]

def addFlag (options : Value) : Link Unit := do
  let (field, _) := mark options
  if ((options.under? "new_field").getD .null).isTrue then Link.addField (flagField field.plain)
  else if ← Link.hasField field then pure ()
  else throw (.feature (.noSuchField "logical_deletion" field.plain))

end Deletion

def logicalDeletion : Feature where
  name := "logical_deletion"
  normalize := Deletion.normalize
  phases := [(.afterFields, Deletion.addFlag)]

end FieldPipeline.Feature
