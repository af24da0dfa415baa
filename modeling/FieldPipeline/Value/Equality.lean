import FieldPipeline.Value.Basic

/-!
Equality of values.  Numbers are compared by quantity, whatever their type; mappings and sets
are compared without regard to order.  What is no number is not equal to itself, and yet it is
found among the members of a container.
-/

namespace FieldPipeline.Value

open FieldPipeline.Number FieldPipeline.Calendar

def sameIntFloat (n : Int) (x : Float) : Bool :=
  compareInt n x == some .eq

def sameNumber? : Value → Value → Option Bool
  | .complex a b, .complex c d => some (a == c && b == d)
  | .complex a b, .float y => some (a == y && b == 0)
  | .float x, .complex c d => some (x == c && d == 0)
  | .float x, .float y => some (x == y)
  | .complex a b, v => (asInt? v).map fun n => sameIntFloat n a && b == 0
  | v, .complex c d => (asInt? v).map fun n => sameIntFloat n c && d == 0
  | .float x, v => (asInt? v).map fun n => sameIntFloat n x
  | v, .float y => (asInt? v).map fun n => sameIntFloat n y
  | v, w => match asInt? v, asInt? w with
    | some m, some n => some (m == n)
    | _, _ => none

def isNoNumber : Value → Bool
  | .float x => x.isNaN
  | _ => false

mutual

def same : Value → Value → Bool
  | .null, .null => true
  | .ellipsis, .ellipsis => true
  | .text s, .text t => s == t
  | .bytes a, .bytes b => a == b
  | .list xs, .list ys => sameAll xs ys
  | .tuple xs, .tuple ys => sameAll xs ys
  | .set xs, .set ys => xs.length == ys.length && subset xs ys
  | .dict es, .dict fs => es.length == fs.length && subdict es fs
  | .moment a, .moment b => Moment.same a b
  | .day a, .day b => a == b
  | .span a, .span b => a == b
  | .fieldRef a, .fieldRef b => a == b
  | .builtin f, .builtin g => f == g
  | v, w => (sameNumber? v w).getD false

def sameAll : List Value → List Value → Bool
  | [], [] => true
  | x :: xs, y :: ys => (same x y || (isNoNumber x && isNoNumber y)) && sameAll xs ys
  | _, _ => false

def subset : List Value → List Value → Bool
  | [], _ => true
  | x :: xs, ys =>
    (ys.any fun y => same x y || (isNoNumber x && isNoNumber y)) && subset xs ys

def subdict : List (Value × Value) → List (Value × Value) → Bool
  | [], _ => true
  | (k, v) :: es, fs =>
    (fs.any fun e => (same k e.1 || (isNoNumber k && isNoNumber e.1))
      && (same v e.2 || (isNoNumber v && isNoNumber e.2))) && subdict es fs

end

def alike (v w : Value) : Bool :=
  same v w || (isNoNumber v && isNoNumber w)

def member (v : Value) (xs : List Value) : Bool :=
  xs.any (alike v)

def valueAt? (key : Value) : List (Value × Value) → Option Value
  | [] => none
  | (k, v) :: es => if alike k key then some v else valueAt? key es

def putEntry (key value : Value) : List (Value × Value) → List (Value × Value)
  | [] => [(key, value)]
  | (k, v) :: es => if alike k key then (k, value) :: es else (k, v) :: putEntry key value es

def dictOf (es : List (Value × Value)) : List (Value × Value) :=
  es.foldl (fun acc e => putEntry e.1 e.2 acc) []

/-- Places a whole number among the whole numbers of a set so that they ascend; any other value
goes to the end. -/
def placeMember (v : Value) : List Value → List Value
  | [] => [v]
  | x :: xs =>
    match asInt? v, asInt? x with
    | some m, some n => if m < n then v :: x :: xs else x :: placeMember v xs
    | _, _ => x :: placeMember v xs

def addMember (xs : List Value) (v : Value) : List Value :=
  if member v xs then xs else placeMember v xs

def setOf (xs : List Value) : List Value :=
  xs.foldl addMember []

end FieldPipeline.Value
