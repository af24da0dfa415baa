import FieldPipeline.Feature.Basic

/-!
Localization: for each locale there is a copy of a field, named with the suffix of the locale.
Locales may share a suffix, and one of them may use the field itself.
-/

namespace FieldPipeline.Feature

namespace Localization

def normalize (options : Value) : Except Failure Value :=
  match options with
  | .dict _ =>
    let field := (options.under? "field").getD .null
    if !field.isTrue then .error (.feature .noLocalizedField)
    else match options.under? "locales" with
      | some (.dict (e :: es)) =>
        .ok (Record.toValue [("field", field), ("locales", .dict (e :: es))])
      | _ => .error (.feature .noLocales)
  | _ => .error (.feature .notAMapping)

def suffixes (options : Value) : List Value :=
  match options.under? "locales" with
  | some (.dict es) => (Value.dictOf (es.map fun e => (e.2, .null))).map Prod.fst
  | _ => []

def isDefault : Value → Bool
  | .text s => s == "default"
  | _ => false

def addCopies (options : Value) : Link Unit := do
  let field := (options.under? "field").getD .null
  if ← Link.hasField field then
    let source ← Link.getField field.plain
    if (suffixes options).any (!·.isHashable) then throw (.fault .wrongType)
    ((suffixes options).filter (!isDefault ·)).forM fun suffix =>
      Link.addField { source with name := source.name ++ "_" ++ suffix.plain }
  else throw (.feature (.noSuchField "i18n" field.plain))

end Localization

def localization : Feature where
  name := "i18n"
  normalize := Localization.normalize
  phases := [(.afterFields, Localization.addCopies)]
  allowMultiple := true

end FieldPipeline.Feature
