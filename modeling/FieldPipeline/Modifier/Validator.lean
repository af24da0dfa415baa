import FieldPipeline.Expression.Builtin
import FieldPipeline.Expression.Formula
import FieldPipeline.Modifier.Basic
import FieldPipeline.Pattern.Address

/-!
The validators.
-/

namespace FieldPipeline.Modifier

def formulaOver (formula : Value) (scope : Record) : Except Failure Value :=
  match formula with
  | .text s => (Expression.evaluateFormula s scope).mapError .formula
  | v => .error (.formula ⟨v.plain, .fault .wrongType⟩)

namespace Validator

abbrev Check := List Value → Except Fault Bool

def of (name : String) (check : Check) : Modifier where
  kind := .validator
  name := name
  apply args _ := Run.ofFault ((check args).map .bool)

def notEmpty : Check
  | [.null] => .ok false
  | [.text s] => .ok !s.isEmpty
  | [.list xs] | [.tuple xs] | [.set xs] => .ok !xs.isEmpty
  | [.dict es] => .ok !es.isEmpty
  | [_] => .ok true
  | _ => .error .wrongType

def lengthOf (v : Value) : Except Fault Int :=
  match v.size? with
  | some n => .ok n
  | none => .error .wrongType

def minLength : Check
  | [.null, _] => .ok false
  | [v, bound] => do
    let size ← lengthOf v
    return decide ((← Builtin.whole bound) ≤ size)
  | _ => .error .wrongType

def maxLength : Check
  | [.null, _] => .ok true
  | [v, bound] => do
    let size ← lengthOf v
    return decide (size ≤ (← Builtin.whole bound))
  | _ => .error .wrongType

def matchesPattern : Check
  | [.null, _] => .ok false
  | [v, .text pattern] => do
    let p ← Pattern.read pattern
    return p.occursIn v.plain
  | _ => .error .wrongType

def isEmail : Check
  | [.text s] => .ok (Pattern.address.occursIn s)
  | [_] => .ok false
  | _ => .error .wrongType

/-- The options may also be given as one sequence or set. -/
def options : List Value → List Value
  | [.list xs] | [.tuple xs] | [.set xs] => xs
  | xs => xs

def oneOf : Check
  | v :: rest => .ok ((options rest).any fun option => v.same option)
  | [] => .error .wrongType

def atLeast : Check
  | [.null, _] => .ok false
  | [v, bound] => v.relate .ge bound
  | _ => .error .wrongType

def atMost : Check
  | [.null, _] => .ok false
  | [v, bound] => v.relate .le bound
  | _ => .error .wrongType

def equals : Check
  | [v, w] => .ok (v.same w)
  | _ => .error .wrongType

def expression : Modifier where
  kind := .validator
  name := "expression"
  apply args scope := match args with
    | [v, formula] =>
      Run.ofExcept ((formulaOver formula (scope.put "value" v)).map fun r => .bool r.isTrue)
    | _ => Run.fail (.fault .wrongType)
  expressionArgs := [0]
  description := "Boolean expression over value and other fields"

def builtin : List Modifier := [
  of "not_empty" notEmpty, of "min_length" minLength, of "max_length" maxLength,
  of "matches" matchesPattern, of "is_email" isEmail, of "one_of" oneOf, of "min" atLeast,
  of "max" atMost, of "equals" equals, expression]

end Validator

end FieldPipeline.Modifier
