import FieldPipeline.Value.Basic
import FieldPipeline.Record

/-!
Records as they are handed to the outside: points in time become texts and sequences become
lists.
-/

namespace FieldPipeline

namespace Value

mutual

def serial : Value → Value
  | .moment m => .text m.isoText
  | .list xs => .list (serialAll xs)
  | .tuple xs => .list (serialAll xs)
  | .dict es => .dict (serialEntries es)
  | v => v

def serialAll : List Value → List Value
  | [] => []
  | x :: xs => serial x :: serialAll xs

def serialEntries : List (Value × Value) → List (Value × Value)
  | [] => []
  | (k, v) :: es => (k, serial v) :: serialEntries es

end

end Value

def Record.serial (r : Record) : Record :=
  r.map fun e => (e.1, e.2.serial)

end FieldPipeline
