import FieldPipeline.Feature.Builtin
import FieldPipeline.Routine.Basic

/-!
What is at hand when the values of an operation are prepared, and the rules of the features that
an entity uses.
-/

namespace FieldPipeline

/-- What every operation relies on besides the entity and its routine. -/
structure Equipment where
  features : List Feature := Feature.builtin
  rules : Rules := Feature.rulesOf Feature.builtin
  generators : List Generator := Generator.builtin
  /-- Whether there is a store from which records can be loaded. -/
  hasStore : Bool := true

def FeatureUse.runRules (rules : Rules) (e : Entity) (point : RulePoint) (u : FeatureUse) :
    Run Unit :=
  let route := ruleRoute u.name point.name
  if rules.has route then do let _ ← rules.run route ⟨u, e⟩ else pure ()

def Entity.runRules (rules : Rules) (e : Entity) (point : RulePoint) : Run Unit :=
  e.features.forM (FeatureUse.runRules rules e point)

end FieldPipeline
