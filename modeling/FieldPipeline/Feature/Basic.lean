import FieldPipeline.Linking.Draft
import FieldPipeline.Rule.Chain

/-!
Features: what an entity can be given besides its fields.  A feature may add fields while the
entity is linked, and actions that are run at certain points of an operation.
-/

namespace FieldPipeline

inductive Phase where
  | beforeFields | afterFields | finalize
  deriving DecidableEq, Repr

def Phase.name : Phase → String
  | .beforeFields => "before_fields"
  | .afterFields => "after_fields"
  | .finalize => "finalize"

inductive RulePoint where
  | beforeCreate | beforeUpdate | postDataValidation | postCreateCheck | postUpdateCheck
  deriving DecidableEq, Repr

def RulePoint.name : RulePoint → String
  | .beforeCreate => "before_create"
  | .beforeUpdate => "before_update"
  | .postDataValidation => "post_data_validation"
  | .postCreateCheck => "post_create_check"
  | .postUpdateCheck => "post_update_check"

def ruleRoute (feature point : String) : String :=
  feature ++ "." ++ point

structure Feature where
  name : String
  /-- Brings options to their stored form. -/
  normalize : Value → Except Failure Value
  phases : List (Phase × (Value → Link Unit)) := []
  rules : List (String × List Action) := []
  allowMultiple : Bool := false
  /-- Whether an update with this input has to know the record before it. -/
  needsExisting : Option (Value → Record → Except Failure Bool) := none

namespace Feature

def callback? (f : Feature) (phase : Phase) : Option (Value → Link Unit) :=
  f.phases.lookup phase

def find? (features : List Feature) (name : String) : Option Feature :=
  features.find? fun f => f.name = name

def toRecord (f : Feature) : Record :=
  let listed (names : List String) : Value := textList (names.mergeSort fun a b => a ≤ b)
  [("name", .text f.name), ("allow_multiple", .bool f.allowMultiple),
    ("phases", listed (f.phases.map fun p => p.1.name)), ("rules", listed (f.rules.map Prod.fst)),
    ("needs_existing", .bool f.needsExisting.isSome)]

def register (f : Feature) (features : List Feature) (rules : Rules) :
    Except FeatureProblem (List Feature × Rules) :=
  if (find? features f.name).isSome then .error (.featureRegistered f.name)
  else .ok (features ++ [f],
    f.rules.foldl (fun rs r => Rules.extend (ruleRoute f.name r.1) r.2 rs) rules)

end Feature

end FieldPipeline
