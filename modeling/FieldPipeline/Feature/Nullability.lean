import FieldPipeline.Feature.Basic

/-!
A list of fields of which at least one has a value in every record.
-/

namespace FieldPipeline.Feature

namespace Nullability

def normalize (options : Value) : Except Failure Value :=
  if !options.isTrue then .error (.feature .noFieldNames)
  else match options with
    | .text name => .ok (.list [.text name])
    | options =>
      match options.members? with
      | some names => .ok (.list names)
      | none => .error (.fault .wrongType)

def names (options : Value) : List Value :=
  options.members?.getD []

def makeOptional : List Value → Link Unit
  | [] => pure ()
  | name :: rest => do
    if ← Link.hasField name then
      Link.updateField name.plain fun f =>
        { f with optional := true, given := "optional" :: f.given }
      makeOptional rest
    else throw (.feature (.noSuchField "at_least_one_not_null" name.plain))

def valueUnder? (name : Value) (r : Record) : Option Value :=
  match name with
  | .text s => r.get? s
  | _ => none

def isNullAt (r : Record) (name : Value) : Bool :=
  ((valueUnder? name r).getD .null).isNull

def allNull (facts : Facts) : Run Unit :=
  Run.reject facts.entity.name (.allNull (names facts.feature.options))

def checkCreate (facts : Facts) : Run Unit := do
  let c ← Run.context
  if (names facts.feature.options).all (isNullAt c.latest) then allNull facts

/-- Whether a field is null after an update.  A field that is not changed, of a record that is not
known, is taken to have a value. -/
def isNullAfter (c : Context) (name : Value) : Bool :=
  match valueUnder? name c.latest with
  | some v => v.isNull
  | none => c.existing.any fun r => isNullAt r name

def checkUpdate (facts : Facts) : Run Unit := do
  let c ← Run.context
  if (names facts.feature.options).all (isNullAfter c) then allNull facts

/-- The record before an update matters when one of the fields is set to null. -/
def needsExisting (options : Value) (raw : Record) : Except Failure Bool :=
  (names options).foldr (fun name rest =>
    if !name.isHashable then .error (.fault .wrongType)
    else if (valueUnder? name raw).any Value.isNull then .ok true
    else rest) (.ok false)

end Nullability

def atLeastOneNotNull : Feature where
  name := "at_least_one_not_null"
  normalize := Nullability.normalize
  phases := [(.finalize, fun options => Nullability.makeOptional (Nullability.names options))]
  rules := [
    (RulePoint.postCreateCheck.name, [.before false Nullability.checkCreate]),
    (RulePoint.postUpdateCheck.name, [.before false Nullability.checkUpdate])]
  allowMultiple := true
  needsExisting := some Nullability.needsExisting

end FieldPipeline.Feature
