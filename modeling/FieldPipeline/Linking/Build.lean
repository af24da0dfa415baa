import FieldPipeline.Feature.Basic
import FieldPipeline.Field.Generation

/-!
Linking: from a declaration to an entity.  The features work on the draft before and after the
declared fields are added; then the types of the fields, their generators and the keys are
resolved.
-/

namespace FieldPipeline

structure Catalogue where
  features : List Feature
  generators : List Generator

namespace Linking

def fail {α : Type} (fault : DeclarationFault) : Link α := do
  throw (.declaration ⟨some (← get).declaration.name, fault⟩)

/-- Tells an unusable value as a fault of the declaration; other failures stay as they are. -/
def explain {α : Type} (x : Link α) (retell : String → DeclarationFault) : Link α :=
  tryCatch x fun f => if f.kind = .badValue then fail (retell f.text) else throw f

abbrev Use := Feature × FeatureUse

def resolveFeature (catalogue : Catalogue) (seen : List String) (d : FeatureDeclaration) :
    Link Use := do
  match Feature.find? catalogue.features d.name with
  | none => fail (.unknownFeature d.name)
  | some feature => do
    if seen.contains d.name && !feature.allowMultiple then fail (.repeatedFeature d.name)
    let options ← explain (ExceptT.mk (pure (feature.normalize d.options))) (.badOptions d.name)
    return (feature, ⟨d.name, options⟩)

def resolveFeatures (catalogue : Catalogue) :
    List String → List FeatureDeclaration → Link (List Use)
  | _, [] => pure []
  | seen, d :: ds => do
    let use ← resolveFeature catalogue seen d
    let rest ← resolveFeatures catalogue (d.name :: seen) ds
    return use :: rest

def runPhase (phase : Phase) (uses : List Use) : Link Unit :=
  uses.forM fun (feature, use) =>
    match feature.callback? phase with
    | some callback => explain (callback use.options) (.phaseFailed use.name phase.name)
    | none => pure ()

def addDeclared (fields : List FieldDeclaration) : Link Unit :=
  fields.forM fun f => explain (Link.addField f) (.fieldDefined f.name)

def displayName (f : FieldDeclaration) : String :=
  (f.comment.filter (!·.isEmpty)).getD f.name

def fieldFault? (catalogue : Catalogue) (f : FieldDeclaration) : Option DeclarationFault :=
  match BaseType.named? f.type with
  | none => some (.unknownType f.type f.name)
  | some type =>
    if type = .enum ∧ (f.values.getD []).isEmpty then some (.noEnumValues f.name)
    else match f.generator with
      | some g =>
        if (Generator.find? catalogue.generators g).isSome then none
        else some (.unknownGenerator g f.name)
      | none => none

def linkedField (f : FieldDeclaration) : Field where
  name := f.name
  type := ((BaseType.named? f.type).map BaseType.name).getD f.type
  optional := f.optional
  readOnly := f.readOnly
  writeOnce := f.writeOnce
  auto := f.auto
  forceUpdate := f.forceUpdate
  updateByStore := f.updateByStore
  createByStore := f.createByStore
  default := f.default
  hasDefault := f.hasDefault
  generator := f.generator
  generatorOptions := f.generatorOptions
  maxLength := f.maxLength
  fixedLength := f.fixedLength
  values := f.values
  displayName := displayName f
  modifiers := f.modifiers

def describe (catalogue : Catalogue) (f : FieldDeclaration) : Link Field :=
  match fieldFault? catalogue f with
  | some fault => fail fault
  | none => pure (linkedField f)

def addKey (keys : List (List String)) (key : List String) : List (List String) :=
  if keys.contains key then keys else keys ++ [key]

def uniqueKeys (key : List String) (indexes : List IndexDeclaration) : List (List String) :=
  (indexes.filter (·.unique)).foldl (fun keys i => addKey keys i.fields)
    (if key.isEmpty then [] else [key])

def missingFields? (hasField : String → Bool) : List (List String) → Option (List String)
  | [] => none
  | key :: rest =>
    let missing := key.filter (!hasField ·)
    if missing.isEmpty then missingFields? hasField rest else some missing

def keyName : Value → Except Fault String
  | .text name => .ok name
  | _ => .error .wrongType

def keyOf (d : Draft) : Except Fault (List String) :=
  match d.declaration.key with
  | some k => .ok k.names
  | none => d.key.mapM keyName

def resolveKeys : Link (List String × List (List String)) := do
  let d ← get
  match keyOf d with
  | .error fault => throw (.fault fault)
  | .ok key =>
    let keys := uniqueKeys key d.declaration.indexes
    match missingFields? d.hasField keys with
    | some missing => fail (.unknownKeyFields missing)
    | none => return (key, keys)

def build (catalogue : Catalogue) : Link Entity := do
  let d ← get
  if d.linked then throw (.misuse .builtTwice)
  set { d with linked := true }
  let uses ← resolveFeatures catalogue [] d.declaration.features
  runPhase .beforeFields uses
  addDeclared d.declaration.fields
  runPhase .afterFields uses
  runPhase .finalize uses
  let fields ← (← get).fields.mapM (describe catalogue)
  let (key, uniqueKeys) ← resolveKeys
  return { name := d.declaration.name, fields, features := uses.map Prod.snd, key, uniqueKeys }

end Linking

def Declaration.link (catalogue : Catalogue) (d : Declaration) : Except Failure Entity :=
  ((Linking.build catalogue).run.run { declaration := d }).1

end FieldPipeline
