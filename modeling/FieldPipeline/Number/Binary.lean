/-!
Double-precision numbers as exact quantities.  A finite number is a sign, a whole mantissa and a
power of two; in the other direction a quotient of natural numbers is rounded to the nearest
double, a tie going to the even mantissa.
-/

namespace FieldPipeline.Number

def divHalfUp (num den : Nat) : Nat :=
  (2 * num + den) / (2 * den)

def divHalfEven (num den : Nat) : Nat :=
  let low := num / den
  let twice := 2 * (num % den)
  if twice < den then low
  else if den < twice then low + 1
  else if low % 2 == 0 then low else low + 1

def roundToMultiple (n : Int) (unit : Nat) : Int :=
  let size := divHalfEven n.natAbs unit * unit
  if n < 0 then -(size : Int) else size

def roundAway (n : Int) (unit : Nat) : Int :=
  let size := divHalfUp n.natAbs unit * unit
  if n < 0 then -(size : Int) else size

def digitCount (n : Nat) : Nat :=
  (Nat.toDigits 10 n).length

/-- The finite number `± mantissa * 2 ^ exponent`. -/
structure Scaled where
  negative : Bool
  mantissa : Nat
  exponent : Int
  deriving DecidableEq, Repr

def infinity : Float := Float.ofBits 0x7FF0000000000000

def notANumber : Float := Float.ofBits 0x7FF8000000000000

def isNegative (x : Float) : Bool :=
  x.toBits.toNat / Nat.pow 2 63 == 1

def withSign (negative : Bool) (x : Float) : Float :=
  let size := x.toBits.toNat % Nat.pow 2 63
  Float.ofBits (UInt64.ofNat (if negative then size + Nat.pow 2 63 else size))

def scaled? (x : Float) : Option Scaled :=
  let bits := x.toBits.toNat
  let negative := bits / Nat.pow 2 63 == 1
  let field : Nat := bits / Nat.pow 2 52 % 2048
  let fraction := bits % Nat.pow 2 52
  if field == 2047 then none
  else if field == 0 then some ⟨negative, fraction, -1074⟩
  else some ⟨negative, Nat.pow 2 52 + fraction, (field : Int) - 1075⟩

def Scaled.ratio (s : Scaled) : Nat × Nat :=
  match s.exponent with
  | .ofNat e => (s.mantissa * Nat.pow 2 e, 1)
  | .negSucc e => (s.mantissa, Nat.pow 2 (e + 1))

/-- The double with the mantissa and exponent, where the mantissa has at most 53 bits and is
as large as the exponent allows; `none` above the largest double. -/
def assemble? (mantissa : Nat) (exponent : Int) : Option Float :=
  if mantissa < Nat.pow 2 52 then some (Float.ofBits (UInt64.ofNat mantissa))
  else
    let (m, e) :=
      if mantissa == Nat.pow 2 53 then (Nat.pow 2 52, exponent + 1) else (mantissa, exponent)
    let field := (e + 1075).toNat
    if 2047 ≤ field then none
    else some (Float.ofBits (UInt64.ofNat (field * Nat.pow 2 52 + (m - Nat.pow 2 52))))

def ofRatio? (num den : Nat) : Option Float :=
  if num == 0 then some (Float.ofBits 0)
  else
    let estimate : Int := (Nat.log2 num : Int) - (Nat.log2 den : Int)
    let quotient (e : Int) : Nat :=
      match e with
      | .ofNat k => divHalfEven num (den * Nat.pow 2 k)
      | .negSucc k => divHalfEven (num * Nat.pow 2 (k + 1)) den
    let floorBelow (e : Int) : Nat :=
      match e with
      | .ofNat k => num / (den * Nat.pow 2 k)
      | .negSucc k => num * Nat.pow 2 (k + 1) / den
    let first := max (estimate - 52) (-1074)
    let exponent := if floorBelow first < Nat.pow 2 52 && -1074 < first then first - 1 else first
    if 2000 < exponent then none else assemble? (quotient exponent) exponent

def ofNat? (n : Nat) : Option Float :=
  ofRatio? n 1

def ofInt? (n : Int) : Option Float :=
  (ofNat? n.natAbs).map (withSign (n < 0))

/-- The double nearest to `± digits * 10 ^ exponent`, infinite when it is too large. -/
def ofDecimal (negative : Bool) (digits : Nat) (exponent : Int) : Float :=
  let count : Int := digitCount digits
  let size :=
    if digits == 0 || count + exponent < -400 then some (Float.ofBits 0)
    else if 400 < count + exponent then none
    else match exponent with
      | .ofNat e => ofRatio? (digits * Nat.pow 10 e) 1
      | .negSucc e => ofRatio? digits (Nat.pow 10 (e + 1))
  withSign negative (size.getD infinity)

def Scaled.truncate (s : Scaled) : Int :=
  let (num, den) := s.ratio
  let size : Int := ((num / den : Nat) : Int)
  if s.negative then -size else size

def Scaled.roundEven (s : Scaled) : Int :=
  let (num, den) := s.ratio
  let size : Int := ((divHalfEven num den : Nat) : Int)
  if s.negative then -size else size

/-- The remainder of `x / y` with the sign of `x`, where `y` is not zero. -/
def remainder (x y : Float) : Float :=
  match scaled? x, scaled? y with
  | some a, some b =>
    let (an, ad) := a.ratio
    let (bn, bd) := b.ratio
    if bn == 0 then notANumber
    else withSign a.negative ((ofRatio? (an * bd % (bn * ad)) (ad * bd)).getD notANumber)
  | some _, none => if y.isNaN then y else x
  | none, _ => notANumber

def compareInt (n : Int) (x : Float) : Option Ordering :=
  if x.isNaN then none
  else match scaled? x with
    | none => some (if isNegative x then .gt else .lt)
    | some s =>
      let (num, den) := s.ratio
      let signed : Int := if s.negative then -(num : Int) else num
      some (compare (n * den) signed)

end FieldPipeline.Number
