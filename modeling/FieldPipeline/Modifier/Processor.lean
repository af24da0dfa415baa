import FieldPipeline.Digest.Basic
import FieldPipeline.Modifier.Validator
import FieldPipeline.Number.Decimal

/-!
The processors.
-/

namespace FieldPipeline.Modifier.Processor

open FieldPipeline.Number

abbrev Change := List Value → Except Fault Value

def of (name : String) (change : Change) : Modifier where
  kind := .processor
  name := name
  apply args _ := Run.ofFault (change args)

def onText (change : String → String) : Change
  | [.text s] => .ok (.text (change s))
  | [v] => .ok v
  | _ => .error .wrongType

def digest (algorithm salt v : Value) : Except Fault Value :=
  match v, algorithm with
  | .null, _ => .ok .null
  | v, .text name =>
    match Digest.Algorithm.named? name with
    | some a => .ok (.text (a.digestText (salt.plain ++ v.plain)))
    | none => .error .badValue
  | _, _ => .error .wrongType

def hash : Change
  | [v] => digest (.text "sha256") (.text "") v
  | [v, algorithm] => digest algorithm (.text "") v
  | [v, algorithm, salt] => digest algorithm salt v
  | _ => .error .wrongType

/-- The first members of a list; a negative number tells how many are left out at the end. -/
def first {α : Type} (n : Int) (xs : List α) : List α :=
  if n < 0 then xs.take (xs.length + n).toNat else xs.take n.toNat

def truncate : Change
  | [.null, _] => .ok .null
  | [v, length] => do
    let n ← Builtin.whole length
    match v with
    | .text s => return .text (String.ofList (first n s.toList))
    | .bytes bs => return .bytes (first n bs)
    | .list xs => return .list (first n xs)
    | .tuple xs => return .tuple (first n xs)
    | _ => throw .wrongType
  | _ => .error .wrongType

def rounded (digits : Int) (d : Decimal) : Except Fault Value :=
  if digits ≤ 0 then
    match d.truncate? with
    | some n => .ok (.int n)
    | none => .error .badValue
  else .ok (.float d.toFloat)

def checkSize : Value → Except Fault Unit
  | .int n => if mostDigits < digitCount n.natAbs then .error .badValue else .ok ()
  | _ => .ok ()

/-- A number rounded to some digits behind the point; a half goes away from zero. -/
def roundDigits (v digits : Value) : Except Fault Value :=
  match v with
  | .null => .ok .null
  | v => do
    let n ← Builtin.whole digits
    Decimal.checkPlace (-n)
    checkSize v
    match (Decimal.read? v.plain).bind (·.roundTo? (-n)) with
    | some d => rounded n d
    | none => throw .noDecimal

def round : Change
  | [v] => roundDigits v (.int 0)
  | [v, digits] => roundDigits v digits
  | _ => .error .wrongType

def transform : Modifier where
  kind := .processor
  name := "transform"
  apply args scope := match args with
    | [v, formula] => Run.ofExcept (formulaOver formula (scope.put "value" v))
    | _ => Run.fail (.fault .wrongType)
  expressionArgs := [0]
  description := "Replace value with an expression result"

def builtin : List Modifier := [
  of "trim" (onText Text.strip), of "lower" (onText Text.lower), of "upper" (onText Text.upper),
  of "hash" hash, of "truncate" truncate, of "round" round, transform]

end FieldPipeline.Modifier.Processor
