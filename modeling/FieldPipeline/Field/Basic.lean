import FieldPipeline.Field.Kind
import FieldPipeline.Record

/-!
Fields with their types and policies, and the modifiers that are declared for them.
-/

namespace FieldPipeline

structure ModifierUse where
  kind : String
  name : String
  args : List Value := []
  /-- Fields that the modifier reads besides those in its arguments. -/
  alsoReads : List String := []
  /-- Only when this condition holds does an activator apply. -/
  condition : Option String := none
  chainable : Bool := true
  /-- The members that are written down. -/
  given : List String := []
  deriving Repr, Inhabited

structure Field where
  name : String
  type : String := "text"
  optional : Bool := false
  readOnly : Bool := false
  writeOnce : Bool := false
  auto : Bool := false
  forceUpdate : Bool := false
  updateByStore : Bool := false
  createByStore : Bool := false
  default : Value := .null
  hasDefault : Bool := false
  generator : Option String := none
  generatorOptions : Record := []
  maxLength : Option Int := none
  fixedLength : Option Int := none
  values : Option (List String) := none
  displayName : String := ""
  modifiers : List ModifierUse := []
  deriving Repr, Inhabited

end FieldPipeline
