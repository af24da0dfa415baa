import FieldPipeline.Field.Basic

/-!
Linked entities: fields in their order, features with their options, and keys.
-/

namespace FieldPipeline

/-- One use of a feature, with options in their stored form. -/
structure FeatureUse where
  name : String
  options : Value := .null
  deriving Repr, Inhabited

structure Entity where
  name : String
  fields : List Field := []
  features : List FeatureUse := []
  key : List String := []
  /-- The keys by which records are told apart; the first one is the key when there is one. -/
  uniqueKeys : List (List String) := []
  deriving Repr, Inhabited

namespace Entity

def field? (e : Entity) (name : String) : Option Field :=
  e.fields.find? fun f => f.name = name

def hasField (e : Entity) (name : String) : Bool :=
  (e.field? name).isSome

def fieldNames (e : Entity) : List String :=
  e.fields.map (·.name)

def featuresNamed (e : Entity) (name : String) : List FeatureUse :=
  e.features.filter fun u => u.name = name

def uniqueKeyIn? (e : Entity) (r : Record) : Option (List String) :=
  e.uniqueKeys.find? fun names => names.all fun name => !(r.getOrNull name).isNull

end Entity

end FieldPipeline
