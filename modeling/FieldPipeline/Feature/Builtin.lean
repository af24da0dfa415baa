import FieldPipeline.Feature.AddedField
import FieldPipeline.Feature.Deletion
import FieldPipeline.Feature.Localization
import FieldPipeline.Feature.Nullability
import FieldPipeline.Feature.StateTracking

/-!
All features that need not be registered, and their rules.
-/

namespace FieldPipeline.Feature

def builtin : List Feature := [
  autoId, createTimestamp, updateTimestamp, logicalDeletion, atLeastOneNotNull, stateTracking,
  localization]

def rulesOf (features : List Feature) : Rules :=
  features.foldl (fun rules f =>
    f.rules.foldl (fun rs r => Rules.extend (ruleRoute f.name r.1) r.2 rs) rules) Rules.empty

end FieldPipeline.Feature
