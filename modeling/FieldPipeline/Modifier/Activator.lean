import FieldPipeline.Modifier.Validator

/-!
The activators.
-/

namespace FieldPipeline.Modifier.Activator

def of (name : String) (derive : List Value → Run Value) : Modifier where
  kind := .activator
  name := name
  apply args _ := derive args

def argument : List Value → Run Value
  | [v] => pure v
  | _ => Run.fail (.fault .wrongType)

def part : Value → String
  | .null => ""
  | v => v.plain

def concat (parts : List Value) : Run Value :=
  pure (.text (String.join (parts.map part)))

def now : List Value → Run Value
  | [] => do return .moment (← Run.now)
  | _ => Run.fail (.fault .wrongType)

def uuid : List Value → Run Value
  | [] => do return .text (← Run.identifier)
  | _ => Run.fail (.fault .wrongType)

def formula : Modifier where
  kind := .activator
  name := "formula"
  apply args scope := match args with
    | [formula] => Run.ofExcept (formulaOver formula scope)
    | _ => Run.fail (.fault .wrongType)
  expressionArgs := [0]
  description := "Derive value from an expression over other fields"

def builtin : List Modifier := [
  of "copy" argument, formula, of "concat" concat, of "now" now, of "uuid" uuid,
  of "constant" argument]

end FieldPipeline.Modifier.Activator
