import FieldPipeline.Number.FloatOps
import FieldPipeline.Value.Template

/-!
Arithmetic of values.  Whole numbers stay exact, a floating-point operand makes the result
floating-point, and texts, sequences, sets and spans of time have the operations that make sense
for them.  Every other use of an operator is a fault.
-/

namespace FieldPipeline.Value

open FieldPipeline.Number FieldPipeline.Calendar

/-- A value seen as a number, of the least general kind. -/
inductive Quantity where
  | int (n : Int)
  | float (x : Float)
  | complex (z : ComplexFloat)

def quantity? : Value → Option Quantity
  | .bool b => some (.int (if b then 1 else 0))
  | .int n => some (.int n)
  | .float x => some (.float x)
  | .complex re im => some (.complex ⟨re, im⟩)
  | _ => none

def floatOf (n : Int) : Except Fault Float :=
  match ofInt? n with
  | some x => .ok x
  | none => .error .tooLarge

def Quantity.toComplex : Quantity → Except Fault ComplexFloat
  | .int n => (floatOf n).map fun x => ⟨x, 0⟩
  | .float x => .ok ⟨x, 0⟩
  | .complex z => .ok z

def ofComplex (z : ComplexFloat) : Value :=
  .complex z.re z.im

structure NumberOperation where
  ints : Int → Int → Except Fault Value
  floats : Float → Float → Except Fault Value
  complexes : ComplexFloat → ComplexFloat → Except Fault Value

def NumberOperation.apply (op : NumberOperation) : Quantity → Quantity → Except Fault Value
  | .int m, .int n => op.ints m n
  | .float x, .float y => op.floats x y
  | .int m, .float y => do op.floats (← floatOf m) y
  | .float x, .int n => do op.floats x (← floatOf n)
  | a, b => do op.complexes (← a.toComplex) (← b.toComplex)

def NumberOperation.on? (op : NumberOperation) (v w : Value) : Option (Except Fault Value) :=
  match quantity? v, quantity? w with
  | some a, some b => some (op.apply a b)
  | _, _ => none

def orFault (r : Option (Except Fault Value)) : Except Fault Value :=
  r.getD (.error .wrongType)

def addition : NumberOperation where
  ints m n := .ok (.int (m + n))
  floats x y := .ok (.float (x + y))
  complexes a b := .ok (.complex (a.re + b.re) (a.im + b.im))

def subtraction : NumberOperation where
  ints m n := .ok (.int (m - n))
  floats x y := .ok (.float (x - y))
  complexes a b := .ok (.complex (a.re - b.re) (a.im - b.im))

def multiplication : NumberOperation where
  ints m n := .ok (.int (m * n))
  floats x y := .ok (.float (x * y))
  complexes a b := .ok (ofComplex (a.mul b))

def divideInts (m n : Int) : Except Fault Value :=
  if n == 0 then .error .divisionByZero
  else
    match ofRatio? m.natAbs n.natAbs with
    | some x => .ok (.float (withSign ((m < 0) != (n < 0)) x))
    | none => .error .tooLarge

def division : NumberOperation where
  ints := divideInts
  floats x y := if y == 0 then .error .divisionByZero else .ok (.float (x / y))
  complexes a b :=
    if b.re == 0 && b.im == 0 then .error .divisionByZero else .ok (ofComplex (a.div b))

def flooredDivision : NumberOperation where
  ints m n := if n == 0 then .error .divisionByZero else .ok (.int (Int.fdiv m n))
  floats x y := if y == 0 then .error .divisionByZero else .ok (.float (floorQuotient x y))
  complexes _ _ := .error .wrongType

def modulus : NumberOperation where
  ints m n := if n == 0 then .error .divisionByZero else .ok (.int (Int.fmod m n))
  floats x y := if y == 0 then .error .divisionByZero else .ok (.float (floorRemainder x y))
  complexes _ _ := .error .wrongType

def powerFloats (x y : Float) : Except Fault Value :=
  match power x y with
  | .real z => .ok (.float z)
  | .complex z => .ok (ofComplex z)
  | .zeroDivision => .error .divisionByZero
  | .tooLarge => .error .tooLarge

def mostPowerBits : Nat := Nat.pow 2 30

def powerInts (m n : Int) : Except Fault Value :=
  match n with
  | .ofNat e =>
    if m.natAbs ≤ 1 || Nat.log2 m.natAbs * e ≤ mostPowerBits then .ok (.int (Int.pow m e))
    else .error .outOfMemory
  | .negSucc _ => do powerFloats (← floatOf m) (← floatOf n)

def exponentiation : NumberOperation where
  ints := powerInts
  floats := powerFloats
  complexes a b :=
    match ComplexFloat.pow? a b with
    | some z => if z.re.isFinite && z.im.isFinite then .ok (ofComplex z) else .error .tooLarge
    | none => .error .divisionByZero

def mostRepetitions : Nat := Nat.pow 2 63

def mostMembers : Nat := Nat.pow 2 32

def repeatMembers {α : Type} (xs : List α) (n : Int) : Except Fault (List α) :=
  if mostRepetitions ≤ n.natAbs then .error .tooLarge
  else if mostMembers < xs.length * n.toNat then .error .outOfMemory
  else .ok (List.flatten (List.replicate n.toNat xs))

def times? (v : Value) (n : Int) : Option (Except Fault Value) :=
  match v with
  | .text s => some ((repeatMembers s.toList n).map fun cs => .text (String.ofList cs))
  | .bytes bs => some ((repeatMembers bs n).map .bytes)
  | .list xs => some ((repeatMembers xs n).map .list)
  | .tuple xs => some ((repeatMembers xs n).map .tuple)
  | .span s => some (.ok (.span ⟨s.micros * n⟩))
  | _ => none

def scaleSpan (s : Span) (num : Int) (den : Nat) : Value :=
  let product := s.micros * num
  let size : Int := divHalfEven product.natAbs den
  .span ⟨if product < 0 then -size else size⟩

def laterMoment (m : Moment) (s : Span) : Except Fault Value :=
  match m.add? s with
  | some later => .ok (.moment later)
  | none => .error .tooLarge

def laterDay (d : Day) (s : Span) : Except Fault Value :=
  let later := Day.ofNumber (d.number + Int.fdiv s.micros 86400000000)
  if later.isValid then .ok (.day later) else .error .tooLarge

def add : Value → Value → Except Fault Value
  | .text s, .text t => .ok (.text (s ++ t))
  | .bytes a, .bytes b => .ok (.bytes (a ++ b))
  | .list xs, .list ys => .ok (.list (xs ++ ys))
  | .tuple xs, .tuple ys => .ok (.tuple (xs ++ ys))
  | .moment m, .span s | .span s, .moment m => laterMoment m s
  | .day d, .span s | .span s, .day d => laterDay d s
  | .span a, .span b => .ok (.span ⟨a.micros + b.micros⟩)
  | v, w => orFault (addition.on? v w)

def sub : Value → Value → Except Fault Value
  | .set xs, .set ys => .ok (.set (xs.filter fun x => !member x ys))
  | .moment a, .moment b =>
    match Moment.sub? a b with
    | some s => .ok (.span s)
    | none => .error .wrongType
  | .moment m, .span s => laterMoment m ⟨-s.micros⟩
  | .day a, .day b => .ok (.span ⟨(a.number - b.number) * 86400000000⟩)
  | .day d, .span s => laterDay d ⟨-s.micros⟩
  | .span a, .span b => .ok (.span ⟨a.micros - b.micros⟩)
  | v, w => orFault (subtraction.on? v w)

def spanTimes (s : Span) (x : Float) : Except Fault Value :=
  match scaled? x with
  | none => .error (if x.isNaN then .badValue else .tooLarge)
  | some q =>
    let (num, den) := q.ratio
    .ok (scaleSpan s (if q.negative then -(num : Int) else num) den)

def mul (v w : Value) : Except Fault Value :=
  match multiplication.on? v w with
  | some r => r
  | none =>
    match v, w with
    | .span s, .float x | .float x, .span s => spanTimes s x
    | _, _ =>
      match (asInt? w).bind (times? v), (asInt? v).bind (times? w) with
      | some r, _ => r
      | none, some r => r
      | none, none => .error .wrongType

def spanOver (s : Span) (x : Float) : Except Fault Value :=
  match scaled? x with
  | none => if x.isNaN then .error .badValue else .error .tooLarge
  | some q =>
    let (num, den) := q.ratio
    if num == 0 then .error .divisionByZero
    else .ok (scaleSpan s (if q.negative then -(den : Int) else den) num)

def div : Value → Value → Except Fault Value
  | .span a, .span b => divideInts a.micros b.micros
  | .span s, .float x => spanOver s x
  | .span s, w =>
    match asInt? w with
    | none => .error .wrongType
    | some n =>
      if n == 0 then .error .divisionByZero
      else .ok (scaleSpan s (if n < 0 then -1 else 1) n.natAbs)
  | v, w => orFault (division.on? v w)

def floorDiv : Value → Value → Except Fault Value
  | .span a, .span b =>
    if b.micros == 0 then .error .divisionByZero else .ok (.int (Int.fdiv a.micros b.micros))
  | .span s, w =>
    match asInt? w with
    | none => .error .wrongType
    | some n =>
      if n == 0 then .error .divisionByZero else .ok (.span ⟨Int.fdiv s.micros n⟩)
  | v, w => orFault (flooredDivision.on? v w)

def mod : Value → Value → Except Fault Value
  | .text template, w => fillTemplate template w
  | .span a, .span b =>
    if b.micros == 0 then .error .divisionByZero else .ok (.span ⟨Int.fmod a.micros b.micros⟩)
  | v, w => orFault (modulus.on? v w)

def pow (v w : Value) : Except Fault Value :=
  orFault (exponentiation.on? v w)

def negate : Value → Except Fault Value
  | .span s => .ok (.span ⟨-s.micros⟩)
  | v =>
    match quantity? v with
    | some (.int n) => .ok (.int (-n))
    | some (.float x) => .ok (.float (-x))
    | some (.complex z) => .ok (.complex (-z.re) (-z.im))
    | none => .error .wrongType

def plus : Value → Except Fault Value
  | .span s => .ok (.span s)
  | v =>
    match quantity? v with
    | some (.int n) => .ok (.int n)
    | some (.float x) => .ok (.float x)
    | some (.complex z) => .ok (ofComplex z)
    | none => .error .wrongType

def absolute : Value → Except Fault Value
  | .span s => .ok (.span ⟨s.micros.natAbs⟩)
  | v =>
    match quantity? v with
    | some (.int n) => .ok (.int n.natAbs)
    | some (.float x) => .ok (.float x.abs)
    | some (.complex z) => .ok (.float z.size)
    | none => .error .wrongType

end FieldPipeline.Value
