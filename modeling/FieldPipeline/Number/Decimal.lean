import FieldPipeline.Fault
import FieldPipeline.Number.Numeral

/-!
Decimal numbers and their rounding to a given place.  A half is rounded away from zero, and a
result may have at most twenty-eight digits.
-/

namespace FieldPipeline.Number

open FieldPipeline.Text

inductive Decimal where
  /-- The number `± coefficient * 10 ^ exponent`. -/
  | finite (negative : Bool) (coefficient : Nat) (exponent : Int)
  | infinite (negative : Bool)
  | nan (signals : Bool)
  deriving DecidableEq, Repr

namespace Decimal

def precision : Nat := 28

def largestExponent : Nat := 999999

def named? (cs : List Char) : Option Decimal :=
  let (negative, body) := splitSign cs
  let word := lowerAscii (body.takeWhile fun c => !isDigit c)
  let payload := body.dropWhile fun c => !isDigit c
  match String.ofList word with
  | "inf" | "infinity" => if payload.isEmpty then some (.infinite negative) else none
  | "nan" => if payload.all isDigit then some (.nan false) else none
  | "snan" => if payload.all isDigit then some (.nan true) else none
  | _ => none

def read? (s : String) : Option Decimal :=
  let cs := (plainForm (stripChars s.toList)).filter (· != '_')
  match readNumeral? cs with
  | some n => some (.finite n.negative n.digits n.exponent)
  | none => named? cs

def checkPlace (place : Int) : Except Fault Unit :=
  if 2 * (largestExponent + precision) < place.natAbs then .error .noDecimal
  else if (largestExponent : Int) < place then .error .decimalTooLarge
  else .ok ()

def coefficientAt (coefficient : Nat) (exponent place : Int) : Nat :=
  match exponent - place with
  | .ofNat up => coefficient * Nat.pow 10 up
  | .negSucc down => divHalfUp coefficient (Nat.pow 10 (down + 1))

/-- The number rounded to a multiple of `10 ^ place`; `none` when the result needs too many
digits or there is none. -/
def roundTo? (place : Int) : Decimal → Option Decimal
  | .infinite _ => none
  | .nan signals => if signals then none else some (.nan false)
  | .finite negative coefficient exponent =>
    if coefficient == 0 then some (.finite negative 0 place)
    else if largestExponent < place.natAbs then none
    else if (precision : Int) < (digitCount coefficient : Int) + exponent - place then none
    else
      let rounded := coefficientAt coefficient exponent place
      if precision < digitCount rounded then none else some (.finite negative rounded place)

def truncate? : Decimal → Option Int
  | .finite negative coefficient exponent =>
    let size : Int := match exponent with
      | .ofNat e => ((coefficient * Nat.pow 10 e : Nat) : Int)
      | .negSucc e => ((coefficient / Nat.pow 10 (e + 1) : Nat) : Int)
    some (if negative then -size else size)
  | _ => none

def toFloat : Decimal → Float
  | .finite negative coefficient exponent => ofDecimal negative coefficient exponent
  | .infinite negative => withSign negative infinity
  | .nan _ => notANumber

end Decimal

end FieldPipeline.Number
