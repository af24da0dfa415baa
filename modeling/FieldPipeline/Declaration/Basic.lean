import FieldPipeline.Field.Basic

/-!
Declarations: what is written down about an entity, before it is linked.  Each part knows which
of its members are written down; the others have their defaults.
-/

namespace FieldPipeline

structure FieldDeclaration where
  name : String
  type : String := "text"
  optional : Bool := false
  readOnly : Bool := false
  writeOnce : Bool := false
  auto : Bool := false
  forceUpdate : Bool := false
  updateByStore : Bool := false
  createByStore : Bool := false
  default : Value := .null
  generator : Option String := none
  generatorOptions : Record := []
  maxLength : Option Int := none
  fixedLength : Option Int := none
  values : Option (List String) := none
  comment : Option String := none
  modifiers : List ModifierUse := []
  given : List String := []
  deriving Repr, Inhabited

/-- A field has a default when one is written down, even if it is null. -/
def FieldDeclaration.hasDefault (f : FieldDeclaration) : Bool :=
  f.given.contains "default"

structure FeatureDeclaration where
  name : String
  options : Value := .null
  given : List String := []
  deriving Repr, Inhabited

structure IndexDeclaration where
  fields : List String
  unique : Bool := false
  given : List String := []
  deriving Repr, Inhabited

inductive KeyDeclaration where
  | single (name : String)
  | several (names : List String)
  deriving DecidableEq, Repr, Inhabited

def KeyDeclaration.names : KeyDeclaration → List String
  | .single name => [name]
  | .several names => names

structure Declaration where
  name : String
  fields : List FieldDeclaration := []
  features : List FeatureDeclaration := []
  key : Option KeyDeclaration := none
  indexes : List IndexDeclaration := []
  given : List String := []
  deriving Repr, Inhabited

def Declaration.field? (d : Declaration) (name : String) : Option FieldDeclaration :=
  d.fields.find? (·.name == name)

end FieldPipeline
