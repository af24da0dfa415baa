import FieldPipeline.Modifier.Activator
import FieldPipeline.Modifier.Processor

/-!
All modifiers that need not be registered.
-/

namespace FieldPipeline.ModifierTable

def builtin : ModifierTable :=
  Modifier.Validator.builtin ++ Modifier.Processor.builtin ++ Modifier.Activator.builtin

end FieldPipeline.ModifierTable
