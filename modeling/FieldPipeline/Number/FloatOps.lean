import FieldPipeline.Number.Binary

/-!
Floored division, remainders and powers of floating-point numbers, and arithmetic of complex
ones.
-/

namespace FieldPipeline.Number

def floorRemainder (x y : Float) : Float :=
  let r := remainder x y
  if r.isNaN then r
  else if r == 0 then withSign (isNegative y) 0
  else if (y < 0) != (r < 0) then r + y
  else r

def floorQuotient (x y : Float) : Float :=
  let r := remainder x y
  let quotient := (x - r) / y
  let adjusted := if r != 0 && (y < 0) != (r < 0) then quotient - 1 else quotient
  if adjusted != 0 then
    let whole := adjusted.floor
    if adjusted - whole > 0.5 then whole + 1 else whole
  else withSign (isNegative (x / y)) 0

def isWhole (x : Float) : Bool :=
  x.isFinite && x.floor == x

def isOddWhole (x : Float) : Bool :=
  isWhole x && remainder x.abs 2 == 1

structure ComplexFloat where
  re : Float
  im : Float

namespace ComplexFloat

def mul (a b : ComplexFloat) : ComplexFloat :=
  ⟨a.re * b.re - a.im * b.im, a.re * b.im + a.im * b.re⟩

/-- The quotient, scaled by the larger part of a divisor other than zero. -/
def div (a b : ComplexFloat) : ComplexFloat :=
  if b.im.abs ≤ b.re.abs then
    let ratio := b.im / b.re
    let scale := b.re + b.im * ratio
    ⟨(a.re + a.im * ratio) / scale, (a.im - a.re * ratio) / scale⟩
  else
    let ratio := b.re / b.im
    let scale := b.re * ratio + b.im
    ⟨(a.re * ratio + a.im) / scale, (a.im * ratio - a.re) / scale⟩

def size (a : ComplexFloat) : Float :=
  let large := max a.re.abs a.im.abs
  if large == 0 || !large.isFinite then large
  else (a.re * a.re + a.im * a.im).sqrt

def powNat (base : ComplexFloat) (n : Nat) : ComplexFloat :=
  go n 8 base ⟨1, 0⟩
where
  go (n : Nat) : Nat → ComplexFloat → ComplexFloat → ComplexFloat
    | 0, _, acc => acc
    | steps + 1, square, acc =>
      if n == 0 then acc
      else go (n / 2) steps (mul square square) (if n % 2 == 1 then mul acc square else acc)

def pow? (a b : ComplexFloat) : Option ComplexFloat :=
  if b.re == 0 && b.im == 0 then some ⟨1, 0⟩
  else if a.re == 0 && a.im == 0 then
    if b.im != 0 || b.re < 0 then none else some ⟨0, 0⟩
  else if b.im == 0 && isWhole b.re && b.re.abs ≤ 100 then
    let p := powNat a b.re.abs.toUInt64.toNat
    some (if b.re < 0 then div ⟨1, 0⟩ p else p)
  else
    let size := a.size
    let angle := Float.atan2 a.im a.re
    let length := size.pow b.re
    let (length, phase) :=
      if b.im == 0 then (length, angle * b.re)
      else (length / (angle * b.im).exp, angle * b.re + b.im * size.log)
    some ⟨length * phase.cos, length * phase.sin⟩

end ComplexFloat

inductive PowerResult where
  | real (x : Float)
  | complex (z : ComplexFloat)
  | zeroDivision
  | tooLarge

/-- The power of two doubles.  A negative base with a broken exponent has a complex power. -/
def power (x y : Float) : PowerResult :=
  if y == 0 then .real 1
  else if x.isNaN then .real x
  else if y.isNaN then .real (if x == 1 then 1 else y)
  else if y.isInf then
    if x.abs == 1 then .real 1
    else if (0 < y) == (1 < x.abs) then .real infinity
    else .real 0
  else if x.isInf then
    let odd := isOddWhole y
    if 0 < y then .real (if odd then x else x.abs)
    else .real (if odd then withSign (isNegative x) 0 else 0)
  else if x == 0 then
    if y < 0 then .zeroDivision else .real (if isOddWhole y then x else 0)
  else if x < 0 && !isWhole y then
    match ComplexFloat.pow? ⟨x, 0⟩ ⟨y, 0⟩ with
    | some z => .complex z
    | none => .zeroDivision
  else
    let size := x.abs.pow y
    if size.isInf then .tooLarge
    else .real (if x < 0 && isOddWhole y then -size else size)

end FieldPipeline.Number
