import FieldPipeline.Feature.Basic

/-!
Features that add one field: a key that is generated, the time of creation and the time of the
last update.  Their options name the field or describe it.
-/

namespace FieldPipeline.Feature

def fieldOptions (usual : Record) : Value → Except Failure Value
  | .null => .ok usual.toValue
  | .text name => .ok (usual.put "name" (.text name)).toValue
  | .dict es => .ok (.dict (es.foldl (fun acc e => Value.putEntry e.1 e.2 acc)
      (usual.map fun e => (.text e.1, e.2))))
  | options => .error (.feature (.neitherNameNorMapping options))

def describedField (options : Value) : Except Failure FieldDeclaration :=
  match Record.ofValue? options with
  | some r => (FieldDeclaration.ofRecord r).mapError .fault
  | none => .error (.fault .wrongType)

def addDescribed (options : Value) : Link FieldDeclaration := do
  match describedField options with
  | .ok f => do
    Link.addField f
    return f
  | .error e => throw e

def autoId : Feature where
  name := "auto_id"
  normalize := fieldOptions [
    ("name", .text "id"), ("type", .text "integer"), ("auto", .bool true),
    ("read_only", .bool true), ("write_once", .bool true)]
  phases := [(.beforeFields, fun options => do
    let _ ← addDescribed options
    Link.keyBy ((options.under? "name").getD .null))]

def createTimestamp : Feature where
  name := "create_timestamp"
  normalize := fieldOptions [
    ("name", .text "created_at"), ("type", .text "datetime"), ("auto", .bool true),
    ("read_only", .bool true), ("write_once", .bool true)]
  phases := [(.afterFields, fun options => do let _ ← addDescribed options)]

def updateTimestamp : Feature where
  name := "update_timestamp"
  normalize := fieldOptions [
    ("name", .text "updated_at"), ("type", .text "datetime"), ("auto", .bool true),
    ("read_only", .bool true), ("optional", .bool true), ("force_update", .bool true)]
  phases := [(.afterFields, fun options => do let _ ← addDescribed options)]

end FieldPipeline.Feature
