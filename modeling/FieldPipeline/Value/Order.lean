import FieldPipeline.Fault
import FieldPipeline.Value.Equality

/-!
The order of values.  Numbers, texts, byte strings and points in time are ordered among their
kind, sequences by their first different members, and sets by inclusion; any other comparison
is a fault.
-/

namespace FieldPipeline.Value

open FieldPipeline.Number FieldPipeline.Calendar

inductive Relation where
  | lt | le | gt | ge
  deriving DecidableEq, Repr

def Relation.holds : Relation → Ordering → Bool
  | .lt, o => o == .lt
  | .le, o => o != .gt
  | .gt, o => o == .gt
  | .ge, o => o != .lt

def compareFloat (x y : Float) : Option Ordering :=
  if x < y then some .lt else if y < x then some .gt else if x == y then some .eq else none

/-- The order of two real numbers, with an inner `none` when they have none. -/
def orderNumbers? : Value → Value → Option (Option Ordering)
  | .float x, .float y => some (compareFloat x y)
  | .float x, w => (asInt? w).map fun n => (compareInt n x).map Ordering.swap
  | v, .float y => (asInt? v).map fun n => compareInt n y
  | v, w => match asInt? v, asInt? w with
    | some m, some n => some (some (compare m n))
    | _, _ => none

def compareChars : List Char → List Char → Ordering
  | [], [] => .eq
  | [], _ :: _ => .lt
  | _ :: _, [] => .gt
  | c :: cs, d :: ds => if c == d then compareChars cs ds else compare c.toNat d.toNat

def compareBytes : List UInt8 → List UInt8 → Ordering
  | [], [] => .eq
  | [], _ :: _ => .lt
  | _ :: _, [] => .gt
  | c :: cs, d :: ds => if c == d then compareBytes cs ds else compare c.toNat d.toNat

def compareTexts (s t : String) : Ordering :=
  compareChars s.toList t.toList

def relateSets (r : Relation) (xs ys : List Value) : Bool :=
  match r with
  | .le => subset xs ys
  | .lt => subset xs ys && xs.length != ys.length
  | .ge => subset ys xs
  | .gt => subset ys xs && xs.length != ys.length

mutual

def relate (r : Relation) : Value → Value → Except Fault Bool
  | .text s, .text t => .ok (r.holds (compareTexts s t))
  | .bytes a, .bytes b => .ok (r.holds (compareBytes a b))
  | .list xs, .list ys => relateAll r xs ys
  | .tuple xs, .tuple ys => relateAll r xs ys
  | .set xs, .set ys => .ok (relateSets r xs ys)
  | .moment a, .moment b =>
    match Moment.compare? a b with
    | some o => .ok (r.holds o)
    | none => .error .wrongType
  | .day a, .day b => .ok (r.holds (compare a.number b.number))
  | .span a, .span b => .ok (r.holds (compare a.micros b.micros))
  | v, w =>
    match orderNumbers? v w with
    | some (some o) => .ok (r.holds o)
    | some none => .ok false
    | none => .error .wrongType

/-- Sequences are related like their first different members, or else like their lengths. -/
def relateAll (r : Relation) : List Value → List Value → Except Fault Bool
  | [], [] => .ok (r.holds .eq)
  | [], _ :: _ => .ok (r.holds .lt)
  | _ :: _, [] => .ok (r.holds .gt)
  | x :: xs, y :: ys => if alike x y then relateAll r xs ys else relate r x y

end

end FieldPipeline.Value
