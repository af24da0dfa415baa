import FieldPipeline.Declaration.Data
import FieldPipeline.Entity.Basic

/-!
Linked entities as records.
-/

namespace FieldPipeline

def Field.toRecord (f : Field) : Record := [
  ("name", .text f.name), ("type", .text f.type), ("optional", .bool f.optional),
  ("read_only", .bool f.readOnly), ("write_once", .bool f.writeOnce), ("auto", .bool f.auto),
  ("force_update", .bool f.forceUpdate), ("update_by_db", .bool f.updateByStore),
  ("create_by_db", .bool f.createByStore), ("default", f.default),
  ("has_default", .bool f.hasDefault), ("generator", optionValue .text f.generator),
  ("generator_options", f.generatorOptions.toValue),
  ("max_length", optionValue .int f.maxLength), ("fixed_length", optionValue .int f.fixedLength),
  ("values", optionValue (fun vs => .tuple (vs.map .text)) f.values),
  ("display_name", .text f.displayName),
  ("modifiers", .list (f.modifiers.map fun m => m.toRecord.toValue))]

def FeatureUse.toRecord (u : FeatureUse) : Record :=
  [("name", .text u.name), ("options", u.options)]

def Entity.toRecord (e : Entity) : Record := [
  ("name", .text e.name), ("order", textList e.fieldNames),
  ("fields", .list (e.fields.map fun f => f.toRecord.toValue)),
  ("features", .list (e.features.map fun u => u.toRecord.toValue)),
  ("key", textList e.key), ("unique_keys", .list (e.uniqueKeys.map textList))]

end FieldPipeline
