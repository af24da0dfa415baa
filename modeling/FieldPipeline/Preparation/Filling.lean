import FieldPipeline.Field.Coercion
import FieldPipeline.Preparation.Basic

/-!
Giving each field its first value: the one of the input, the default, or a generated one, as the
policies of the field allow.
-/

namespace FieldPipeline

namespace Preparation

/-- Whether a field keeps the value that it has had before the operation. -/
def isSettled (c : Context) (f : Field) : Bool :=
  f.writeOnce && !(c.former f.name).isNull

def generated (equipment : Equipment) (e : Entity) (f : Field) : Run Value := do
  let c ← Run.context
  (f.generate equipment.generators c.locale).explain fun failure =>
    match failure.kind with
    | .missingKey | .badValue => .rejected ⟨some e.name, .notGenerated f.name failure.text⟩
    | _ => failure

def fillGenerated (equipment : Equipment) (e : Entity) (f : Field) : Run Unit := do
  Run.setLatest f.name (← generated equipment e f)

def coerced (settings : Settings) (e : Entity) (f : Field) (v : Value) : Except Failure Value :=
  (f.coerce settings v).mapError fun failure =>
    if failure.kind = .badValue then .rejected ⟨some e.name, .wrongType f.name failure.text⟩
    else failure

def fillGiven (e : Entity) (mode : Mode) (f : Field) (v : Value) : Run Unit := do
  let c ← Run.context
  if f.readOnly then Run.reject e.name (.readOnly f.name)
  else if mode = .update && isSettled c f then Run.reject e.name (.writeOnce f.name)
  else if v.isNull then
    if f.optional then Run.setLatest f.name .null else Run.reject e.name (.notNull f.name)
  else do
    let value ← Run.ofExcept (coerced (← Run.settings) e f v)
    Run.setLatest f.name value

def fillOnUpdate (equipment : Equipment) (e : Entity) (f : Field) : Run Unit := do
  let c ← Run.context
  if isSettled c f || !f.forceUpdate || f.updateByStore then pure ()
  else if f.auto then fillGenerated equipment e f
  else Run.reject e.name (.forceUpdate f.name)

def fillOnCreate (equipment : Equipment) (e : Entity) (f : Field) : Run Unit :=
  if f.createByStore then pure ()
  else if f.hasDefault then Run.setLatest f.name f.default
  else if f.auto then fillGenerated equipment e f
  else if f.optional then pure ()
  else Run.reject e.name (.required f.name)

def fillField (equipment : Equipment) (e : Entity) (mode : Mode) (f : Field) : Run Unit := do
  match (← Run.context).raw.get? f.name with
  | some v => fillGiven e mode f v
  | none =>
    match mode with
    | .update => fillOnUpdate equipment e f
    | .create => fillOnCreate equipment e f

def warnOfUnknown (e : Entity) (raw : Record) : Run Unit :=
  let unknown := raw.names.filter (!e.hasField ·)
  if unknown.isEmpty then pure ()
  else Run.warn ("Ignoring unknown field(s) for " ++ e.name ++ ": " ++ Value.writtenTexts unknown)

def fill (equipment : Equipment) (e : Entity) (mode : Mode) : Run Unit := do
  warnOfUnknown e (← Run.context).raw
  e.fields.forM (fillField equipment e mode)

end Preparation

end FieldPipeline
