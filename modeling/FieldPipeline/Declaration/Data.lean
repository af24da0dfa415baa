import FieldPipeline.Declaration.Reader

/-!
Declarations as plain data, as they are saved: of each part only the members that are written
down, with points in time as texts and all sequences as lists.
-/

namespace FieldPipeline

namespace Value

/-- A point in time as a saved text, in which the zone without offset is a `Z`. -/
def savedMoment (m : Calendar.Moment) : String :=
  if m.offset == some 0 then { m with offset := none }.isoText ++ "Z" else m.isoText

def savedBytes (bs : List UInt8) : Except Fault String :=
  match String.fromUTF8? (ByteArray.mk bs.toArray) with
  | some s => .ok s
  | none => .error .badText

def savedKey : Value → Except Fault String
  | .moment m => .ok (savedMoment m)
  | .bytes bs => savedBytes bs
  | .bool b => .ok (if b then "true" else "false")
  | v => .ok v.plain

mutual

/-- A value as plain data.  A number that is not finite has no place there, and what no file can
hold is not saved. -/
def saved : Value → Except Fault Value
  | .null => .ok .null
  | .bool b => .ok (.bool b)
  | .int n => .ok (.int n)
  | .float x => .ok (if (Number.scaled? x).isSome then .float x else .null)
  | .text s => .ok (.text s)
  | .moment m => .ok (.text (savedMoment m))
  | .day d => .ok (.text (String.ofList d.text))
  | .bytes bs => return .text (← savedBytes bs)
  | .fieldRef name => .ok (.dict [(.text "ref", .text name)])
  | .list xs | .tuple xs | .set xs => return .list (← savedAll xs)
  | .dict es => return .dict (dictOf (← savedEntries es))
  | .complex _ _ | .span _ | .builtin _ | .ellipsis => .error .badValue

def savedAll : List Value → Except Fault (List Value)
  | [] => .ok []
  | x :: xs => return (← saved x) :: (← savedAll xs)

def savedEntries : List (Value × Value) → Except Fault (List (Value × Value))
  | [] => .ok []
  | (k, v) :: es => return (.text (← savedKey k), ← saved v) :: (← savedEntries es)

end

end Value

def optionValue {α : Type} (f : α → Value) : Option α → Value
  | none => .null
  | some a => f a

def givenMembers (given : List String) (members : Record) : Value :=
  Record.toValue (members.filter fun e => given.contains e.1)

def ModifierUse.toRecord (m : ModifierUse) : Record := [
  ("kind", .text m.kind), ("name", .text m.name), ("args", .list m.args),
  ("field_references", textList m.alsoReads), ("when", optionValue .text m.condition),
  ("chainable", .bool m.chainable)]

def ModifierUse.toData (m : ModifierUse) : Except Fault Value :=
  (givenMembers m.given m.toRecord).saved

namespace FieldDeclaration

def allMembers (modifiers : List Value) (f : FieldDeclaration) : Record := [
  ("name", .text f.name), ("type", .text f.type), ("optional", .bool f.optional),
  ("read_only", .bool f.readOnly), ("write_once", .bool f.writeOnce), ("auto", .bool f.auto),
  ("force_update", .bool f.forceUpdate), ("update_by_db", .bool f.updateByStore),
  ("create_by_db", .bool f.createByStore), ("default", f.default),
  ("has_default", .bool f.hasDefault), ("generator", optionValue .text f.generator),
  ("generator_options", f.generatorOptions.toValue),
  ("max_length", optionValue .int f.maxLength), ("fixed_length", optionValue .int f.fixedLength),
  ("values", optionValue textList f.values), ("comment", optionValue .text f.comment),
  ("modifiers", .list modifiers)]

def toRecord (f : FieldDeclaration) : Record :=
  f.allMembers (f.modifiers.map fun m => m.toRecord.toValue)

def toData (f : FieldDeclaration) : Except Fault Value := do
  let modifiers ← f.modifiers.mapM ModifierUse.toData
  (givenMembers f.given (f.allMembers modifiers)).saved

end FieldDeclaration

def FeatureDeclaration.toRecord (f : FeatureDeclaration) : Record :=
  [("name", .text f.name), ("options", f.options)]

def FeatureDeclaration.toData (f : FeatureDeclaration) : Except Fault Value :=
  (givenMembers f.given f.toRecord).saved

def IndexDeclaration.toRecord (i : IndexDeclaration) : Record :=
  [("fields", textList i.fields), ("unique", .bool i.unique)]

def IndexDeclaration.toData (i : IndexDeclaration) : Value :=
  givenMembers i.given i.toRecord

def KeyDeclaration.toData : KeyDeclaration → Value
  | .single name => .text name
  | .several names => textList names

def Declaration.toRecord (d : Declaration) : Record := [
  ("name", .text d.name), ("fields", .list (d.fields.map fun f => f.toRecord.toValue)),
  ("features", .list (d.features.map fun f => f.toRecord.toValue)),
  ("key", optionValue KeyDeclaration.toData d.key),
  ("indexes", .list (d.indexes.map fun i => i.toRecord.toValue))]

def Declaration.toData (d : Declaration) : Except Fault Value := do
  let fields ← d.fields.mapM (·.toData)
  let features ← d.features.mapM (·.toData)
  return givenMembers d.given [
    ("name", .text d.name), ("fields", .list fields), ("features", .list features),
    ("key", optionValue KeyDeclaration.toData d.key),
    ("indexes", .list (d.indexes.map (·.toData)))]

end FieldPipeline
