import FieldPipeline.Declaration.Reader
import FieldPipeline.Entity.Basic

/-!
Drafts: entities while they are being linked.  Features add fields to a draft and change them.
-/

namespace FieldPipeline

structure Draft where
  declaration : Declaration
  fields : List FieldDeclaration := []
  /-- The names of the key.  A feature may give a name that is no text. -/
  key : List Value := []
  /-- A draft can be linked once. -/
  linked : Bool := false

/-- A computation on a draft.  What it changed stays changed when it fails. -/
abbrev Link (α : Type) := ExceptT Failure (StateM Draft) α

namespace Draft

def field? (d : Draft) (name : String) : Option FieldDeclaration :=
  d.fields.find? fun f => f.name = name

def hasField (d : Draft) (name : String) : Bool :=
  (d.field? name).isSome

end Draft

namespace Link

def addField (f : FieldDeclaration) : Link Unit := do
  let d ← get
  if d.hasField f.name then throw (.feature (.fieldDefined f.name))
  else set { d with fields := d.fields ++ [f] }

def hasField (name : Value) : Link Bool := do
  if !name.isHashable then throw (.fault .wrongType)
  match name with
  | .text s => return (← get).hasField s
  | _ => return false

def getField (name : String) : Link FieldDeclaration := do
  match (← get).field? name with
  | some f => return f
  | none => throw (.fault .missingKey)

def updateField (name : String) (change : FieldDeclaration → FieldDeclaration) : Link Unit := do
  let d ← get
  if d.hasField name then
    set { d with fields := d.fields.map fun (f : FieldDeclaration) =>
      if f.name = name then change f else f }
  else throw (.fault .missingKey)

def setKey (names : List String) : Link Unit :=
  modify fun d => { d with key := names.map .text }

def keyBy (name : Value) : Link Unit :=
  modify fun d => { d with key := [name] }

end Link

end FieldPipeline
