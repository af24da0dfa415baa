import FieldPipeline.Calendar.Moment

/-!
The values that records hold and expressions compute.  Mappings keep the order in which their
keys were first written.
-/

namespace FieldPipeline

open FieldPipeline.Calendar

inductive Builtin where
  | abs | min | max | round | int | float | str | len | sum | all | any | bool | lower | upper
  deriving DecidableEq, Repr

inductive Value where
  | null
  | bool (b : Bool)
  | int (n : Int)
  | float (x : Float)
  | complex (re im : Float)
  | text (s : String)
  | bytes (bs : List UInt8)
  | list (xs : List Value)
  | tuple (xs : List Value)
  | set (xs : List Value)
  | dict (entries : List (Value × Value))
  | moment (m : Moment)
  | day (d : Day)
  | span (s : Span)
  | fieldRef (name : String)
  | builtin (f : Builtin)
  | ellipsis
  deriving Repr, Inhabited

namespace Builtin

def name : Builtin → String
  | .abs => "abs"
  | .min => "min"
  | .max => "max"
  | .round => "round"
  | .int => "int"
  | .float => "float"
  | .str => "str"
  | .len => "len"
  | .sum => "sum"
  | .all => "all"
  | .any => "any"
  | .bool => "bool"
  | .lower => "lower"
  | .upper => "upper"

def catalogue : List Builtin :=
  [.abs, .min, .max, .round, .int, .float, .str, .len, .sum, .all, .any, .bool, .lower, .upper]

def named? (name : String) : Option Builtin :=
  catalogue.find? (·.name == name)

end Builtin

namespace Value

def isNull : Value → Bool
  | .null => true
  | _ => false

def isTrue : Value → Bool
  | .null => false
  | .bool b => b
  | .int n => n != 0
  | .float x => x != 0
  | .complex re im => re != 0 || im != 0
  | .text s => !s.isEmpty
  | .bytes bs => !bs.isEmpty
  | .list xs | .tuple xs | .set xs => !xs.isEmpty
  | .dict entries => !entries.isEmpty
  | .span s => s.micros != 0
  | _ => true

/-- The whole number that a value is, where the truth values are 0 and 1. -/
def asInt? : Value → Option Int
  | .bool b => some (if b then 1 else 0)
  | .int n => some n
  | _ => none

def members? : Value → Option (List Value)
  | .text s => some (s.toList.map fun c => .text (String.singleton c))
  | .bytes bs => some (bs.map fun b => .int b.toNat)
  | .list xs | .tuple xs | .set xs => some xs
  | .dict entries => some (entries.map Prod.fst)
  | _ => none

def size? : Value → Option Nat
  | .text s => some s.length
  | .bytes bs => some bs.length
  | .list xs | .tuple xs | .set xs => some xs.length
  | .dict entries => some entries.length
  | _ => none

def isHashable : Value → Bool
  | .list _ | .set _ | .dict _ => false
  | .tuple xs => allHashable xs
  | _ => true
where
  allHashable : List Value → Bool
    | [] => true
    | x :: xs => isHashable x && allHashable xs

end Value

end FieldPipeline
