import FieldPipeline.Number.Shortest

/-!
How floating-point numbers are written.  The digits come from the shortest form; a layout says
where the positional notation ends and how an exponent looks.  With a given number of decimal places
the exact value is rounded, and a half goes to the even neighbour.
-/

namespace FieldPipeline.Number

structure Layout where
  /-- The positional notation is used from this exponent … -/
  leastPositional : Int
  /-- … and below this one. -/
  mostPositional : Int
  /-- A whole number written positionally ends in this. -/
  wholeSuffix : List Char
  exponentMark : Char
  /-- Exponents have at least this many digits. -/
  exponentPlaces : Nat
  infinity : List Char
  notANumber : List Char

/-- Numbers are positional from 0.0001 up to sixteen whole places, whole ones end in a point
and a nought, and exponents are signed and have two digits or more. -/
def Layout.plain : Layout where
  leastPositional := -4
  mostPositional := 16
  wholeSuffix := ['.', '0']
  exponentMark := 'e'
  exponentPlaces := 2
  infinity := ['i', 'n', 'f']
  notANumber := ['n', 'a', 'n']

def digitChars (ds : List Nat) : List Char :=
  ds.map fun d => Char.ofNat (48 + d)

def padZeros (places : Nat) (cs : List Char) : List Char :=
  List.replicate (places - cs.length) '0' ++ cs

def Layout.exponentText (layout : Layout) (e : Int) : List Char :=
  let sign := if e < 0 then '-' else '+'
  layout.exponentMark :: sign :: padZeros layout.exponentPlaces (Nat.toDigits 10 e.natAbs)

def Layout.positional (layout : Layout) (ds : List Char) (e : Int) : List Char :=
  if e < 0 then '0' :: '.' :: List.replicate ((-e).toNat - 1) '0' ++ ds
  else
    let whole := e.toNat + 1
    if ds.length ≤ whole then ds ++ List.replicate (whole - ds.length) '0' ++ layout.wholeSuffix
    else ds.take whole ++ '.' :: ds.drop whole

def Layout.scientific (layout : Layout) (ds : List Char) (e : Int) : List Char :=
  match ds with
  | [] => layout.exponentText e
  | [d] => d :: layout.exponentText e
  | d :: rest => d :: '.' :: rest ++ layout.exponentText e

def Layout.size (layout : Layout) (d : Digits) : List Char :=
  let ds := digitChars d.digits
  if layout.leastPositional ≤ d.exponent && d.exponent < layout.mostPositional then
    layout.positional ds d.exponent
  else layout.scientific ds d.exponent

def Layout.write (layout : Layout) (x : Float) : List Char :=
  match scaled? x with
  | some s => if s.negative then '-' :: layout.size s.shortest else layout.size s.shortest
  | none =>
    if x.isNaN then layout.notANumber
    else if isNegative x then '-' :: layout.infinity
    else layout.infinity

def floatText (x : Float) : String :=
  String.ofList (Layout.plain.write x)

def Scaled.units (s : Scaled) (places : Nat) : Nat :=
  let (num, den) := s.ratio
  divHalfEven (num * Nat.pow 10 places) den

def Scaled.fixedText (s : Scaled) (places : Nat) : List Char :=
  let ds := padZeros (places + 1) (Nat.toDigits 10 (s.units places))
  let whole := ds.take (ds.length - places)
  if places == 0 then whole else whole ++ '.' :: ds.drop (ds.length - places)

/-- The first digits of the size, `count + 1` of them, and the place of the first one. -/
def Scaled.leading (s : Scaled) (count : Nat) : List Char × Int :=
  if s.mantissa == 0 then (List.replicate (count + 1) '0', 0)
  else
    let (num, den) := s.ratio
    let lead := leadingPlace num den
    let (n, d) := shiftPlace num den (lead - count)
    let ds := Nat.toDigits 10 (divHalfEven n d)
    if ds.length == count + 2 then (ds.take (count + 1), lead + 1) else (ds, lead)

/-- The number rounded to `places` decimal places, or to tens, hundreds and so on for negative
ones; `none` when the result is too large. -/
def roundFloat? (x : Float) (places : Int) : Option Float :=
  match scaled? x with
  | none => some x
  | some s =>
    if 323 < places then some x
    else if places < -308 then some (withSign s.negative (Float.ofBits 0))
    else
      let (num, den) := s.ratio
      let size := match places with
        | .ofNat p => ofRatio? (divHalfEven (num * Nat.pow 10 p) den) (Nat.pow 10 p)
        | .negSucc p => ofNat? (divHalfEven num (den * Nat.pow 10 (p + 1)) * Nat.pow 10 (p + 1))
      size.map (withSign s.negative)

end FieldPipeline.Number
