import FieldPipeline.Declaration.Reader

/-!
Changing some members of a declared field.
-/

namespace FieldPipeline.FieldDeclaration

def takeOver (names : List String) (other f : FieldDeclaration) : FieldDeclaration :=
  let pick {α : Type} (name : String) (member : FieldDeclaration → α) : α :=
    if names.contains name then member other else member f
  { name := f.name
    type := pick "type" (·.type)
    optional := pick "optional" (·.optional)
    readOnly := pick "read_only" (·.readOnly)
    writeOnce := pick "write_once" (·.writeOnce)
    auto := pick "auto" (·.auto)
    forceUpdate := pick "force_update" (·.forceUpdate)
    updateByStore := pick "update_by_db" (·.updateByStore)
    createByStore := pick "create_by_db" (·.createByStore)
    default := pick "default" (·.default)
    generator := pick "generator" (·.generator)
    generatorOptions := pick "generator_options" (·.generatorOptions)
    maxLength := pick "max_length" (·.maxLength)
    fixedLength := pick "fixed_length" (·.fixedLength)
    values := pick "values" (·.values)
    comment := pick "comment" (·.comment)
    modifiers := pick "modifiers" (·.modifiers)
    given := f.given ++ names }

/-- The field with the members that a record gives it; without a change when the record does not
describe a field. -/
def changedBy (changes : Record) (f : FieldDeclaration) : FieldDeclaration :=
  match ofRecord (changes.put "name" (.text f.name)) with
  | .ok other => takeOver changes.names other f
  | .error _ => f

end FieldPipeline.FieldDeclaration
