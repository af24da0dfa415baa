import FieldPipeline.Declaration.Basic
import FieldPipeline.Declaration.Shape

/-!
Reading declarations from values.  Members that are not known are passed over.
-/

namespace FieldPipeline

/-- An argument of a modifier: a mapping with nothing but a `ref` names a field. -/
def readArgument : Value → Check Value
  | .dict [(.text "ref", v)] => (Check.text v).within "ref" >>= fun name => pure (.fieldRef name)
  | v => pure v

def readArguments : List Value → Check (List Value)
  | [] => pure []
  | v :: vs =>
    let first := readArgument v
    if first.issues.isEmpty then do
      let rest ← readArguments vs
      return first.value :: rest
    else Check.fail first.issues

def argumentsShape : Value → Check (List Value)
  | .list xs | .tuple xs => readArguments xs
  | v => Check.listOf Check.any v

def ModifierUse.members : List String :=
  ["kind", "name", "args", "field_references", "when", "chainable"]

def ModifierUse.ofEntries (es : Check.Entries) : Check ModifierUse := do
  let kind ← Check.required es "kind" Check.text
  let name ← Check.required es "name" Check.text
  let args ← Check.orElse es "args" argumentsShape []
  let alsoReads ← Check.orElse es "field_references" (Check.listOf Check.text) []
  let condition ← Check.orElse es "when" (Check.optional Check.text) none
  let chainable ← Check.orElse es "chainable" Check.flag true
  return { kind, name, args, alsoReads, condition, chainable, given := Check.present es members }

namespace FieldDeclaration

def members : List String := [
  "name", "type", "optional", "read_only", "write_once", "auto", "force_update", "update_by_db",
  "create_by_db", "default", "generator", "generator_options", "max_length", "fixed_length",
  "values", "comment", "modifiers"]

def ofEntries (es : Check.Entries) : Check FieldDeclaration := do
  let flag (name : String) := Check.orElse es name Check.flag false
  let name ← Check.required es "name" Check.text
  let type ← Check.orElse es "type" Check.text "text"
  let optional ← flag "optional"
  let readOnly ← flag "read_only"
  let writeOnce ← flag "write_once"
  let auto ← flag "auto"
  let forceUpdate ← flag "force_update"
  let updateByStore ← flag "update_by_db"
  let createByStore ← flag "create_by_db"
  let default ← Check.orElse es "default" Check.any .null
  let generator ← Check.orElse es "generator" (Check.optional Check.text) none
  let generatorOptions ← Check.orElse es "generator_options" Check.record []
  let maxLength ← Check.orElse es "max_length" (Check.optional Check.wholeNumber) none
  let fixedLength ← Check.orElse es "fixed_length" (Check.optional Check.wholeNumber) none
  let values ← Check.orElse es "values" (Check.optional (Check.listOf Check.text)) none
  let comment ← Check.orElse es "comment" (Check.optional Check.text) none
  let modifiers ←
    Check.orElse es "modifiers" (Check.listOf (Check.mapping ModifierUse.ofEntries)) []
  return {
    name, type, optional, readOnly, writeOnce, auto, forceUpdate, updateByStore, createByStore
    default, generator, generatorOptions, maxLength, fixedLength, values, comment, modifiers
    given := Check.present es members }

def ofRecord (r : Record) : Except Fault FieldDeclaration :=
  (ofEntries (r.map fun e => (.text e.1, e.2))).result

end FieldDeclaration

def FeatureDeclaration.members : List String := ["name", "options"]

def FeatureDeclaration.ofEntries (es : Check.Entries) : Check FeatureDeclaration := do
  let name ← Check.required es "name" Check.text
  let options ← Check.orElse es "options" Check.any .null
  return { name, options, given := Check.present es members }

def IndexDeclaration.members : List String := ["fields", "unique"]

def IndexDeclaration.ofEntries (es : Check.Entries) : Check IndexDeclaration := do
  let fields ← Check.required es "fields" (Check.listOf Check.text)
  let unique ← Check.orElse es "unique" Check.flag false
  return { fields, unique, given := Check.present es members }

/-- A key that is neither a text nor a list of texts is told for both shapes. -/
def KeyDeclaration.shape (v : Value) : Check KeyDeclaration :=
  let single := (Check.text v).within "str"
  let several := (Check.listOf Check.text v).within "list[str]"
  if single.issues.isEmpty then .single <$> single
  else if several.issues.isEmpty then .several <$> several
  else Check.fail (single.issues ++ several.issues)

namespace Declaration

def members : List String := ["name", "fields", "features", "key", "indexes"]

def ofEntries (es : Check.Entries) : Check Declaration := do
  let name ← Check.required es "name" Check.text
  let fields ←
    Check.orElse es "fields" (Check.listOf (Check.mapping FieldDeclaration.ofEntries)) []
  let features ←
    Check.orElse es "features" (Check.listOf (Check.mapping FeatureDeclaration.ofEntries)) []
  let key ← Check.orElse es "key" (Check.optional KeyDeclaration.shape) none
  let indexes ←
    Check.orElse es "indexes" (Check.listOf (Check.mapping IndexDeclaration.ofEntries)) []
  return { name, fields, features, key, indexes, given := Check.present es members }

def ofValue (v : Value) : Except Fault Declaration :=
  (Check.mapping ofEntries v).result

end Declaration

end FieldPipeline
