import FieldPipeline.Feature.Basic
import FieldPipeline.Field.Generation

/-!
Tracking of states: for each state that an enumeration field can have there is a field with the
time at which the state was reached, the first time or, when states are reversible, the last.
-/

namespace FieldPipeline.Feature

namespace StateTracking

def stampName (field state : String) : String :=
  field ++ "_" ++ state ++ "_timestamp"

def optionsOf (field : Value) (reversible : Bool) : Value :=
  Record.toValue [("field", field), ("reversible", .bool reversible)]

def normalize (options : Value) : Except Failure Value :=
  match options with
  | .text "" => .error (.feature .noTrackedField)
  | .text name => .ok (optionsOf (.text name) false)
  | options =>
    match options.under? "field" with
    | some field =>
      if field.isTrue then .ok (optionsOf field ((options.under? "reversible").any Value.isTrue))
      else .error (.feature .noTrackedField)
    | none => .error (.feature .noTrackedField)

def tracked (options : Value) : Value :=
  (options.under? "field").getD .null

def isReversible (options : Value) : Bool :=
  (options.under? "reversible").any Value.isTrue

def stampField (field : String) (reversible : Bool) (state : String) : FieldDeclaration where
  name := stampName field state
  type := "datetime"
  readOnly := true
  optional := true
  writeOnce := !reversible
  given := ["name", "type", "optional", "read_only", "write_once"]

def addStamps (options : Value) : Link Unit := do
  let field := tracked options
  if ← Link.hasField field then
    let f ← Link.getField field.plain
    match f.type, f.values with
    | "enum", some (v :: vs) =>
      (v :: vs).forM fun state =>
        Link.addField (stampField field.plain (isReversible options) state)
    | _, _ => throw (.feature .notAnEnum)
  else throw (.feature (.noSuchField "state_tracking" field.plain))

def stamp (facts : Facts) : Run Unit := do
  let options := facts.feature.options
  let c ← Run.context
  let field := (tracked options).plain
  let state := c.latest.getOrNull field
  if state.isNull then pure ()
  else
    let name := stampName field state.plain
    if isReversible options || (c.former name).isNull then
      match facts.entity.field? name with
      | some f => do
        let v ← f.generate Generator.builtin c.locale
        Run.setLatest name v
      | none => Run.fail (.fault .missingKey)

/-- The record before an update matters when a state is given and is to be kept. -/
def needsExisting (options : Value) (raw : Record) : Except Failure Bool :=
  let field := tracked options
  if !field.isHashable then .error (.fault .wrongType)
  else match field with
    | .text name => .ok (raw.has name && !isReversible options)
    | _ => .ok false

end StateTracking

def stateTracking : Feature where
  name := "state_tracking"
  normalize := StateTracking.normalize
  phases := [(.afterFields, StateTracking.addStamps)]
  rules := [(RulePoint.postDataValidation.name, [.before true StateTracking.stamp])]
  allowMultiple := true
  needsExisting := some StateTracking.needsExisting

end FieldPipeline.Feature
