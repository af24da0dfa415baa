import FieldPipeline.Number.Binary

/-!
The fewest decimal digits that read back as a given double.  A decimal reads back when it lies
between the midpoints to the neighbouring doubles, the midpoints included for an even mantissa;
of the decimals with that many digits the nearest one is taken.
-/

namespace FieldPipeline.Number

/-- The decimal `0.d₁d₂… * 10 ^ (exponent + 1)`: its digits and the place of the first one. -/
structure Digits where
  digits : List Nat
  exponent : Int
  deriving DecidableEq, Repr

/-- The numbers that read back as a double, over a common denominator. -/
structure Interval where
  low : Nat
  value : Nat
  high : Nat
  den : Nat
  closed : Bool

def Scaled.interval (s : Scaled) : Interval :=
  let value := 4 * s.mantissa
  let low := if s.mantissa == Nat.pow 2 52 && -1074 < s.exponent then value - 1 else value - 2
  let closed := s.mantissa % 2 == 0
  match s.exponent - 2 with
  | .ofNat e => ⟨low * Nat.pow 2 e, value * Nat.pow 2 e, (value + 2) * Nat.pow 2 e, 1, closed⟩
  | .negSucc e => ⟨low, value, value + 2, Nat.pow 2 (e + 1), closed⟩

def leadingPlace (num den : Nat) : Int :=
  if den ≤ num then (digitCount (num / den) : Int) - 1
  else
    let count := digitCount (den / num)
    if den ≤ num * Nat.pow 10 (count - 1) then -((count : Int) - 1) else -(count : Int)

def shiftPlace (num den : Nat) (place : Int) : Nat × Nat :=
  match place with
  | .ofNat p => (num, den * Nat.pow 10 p)
  | .negSucc p => (num * Nat.pow 10 (p + 1), den)

def Interval.holds (i : Interval) (candidate : Nat) (place : Int) : Bool :=
  let (low, den) := shiftPlace i.low i.den place
  let (high, _) := shiftPlace i.high i.den place
  if i.closed then low ≤ candidate * den && candidate * den ≤ high
  else low < candidate * den && candidate * den < high

def Interval.candidate? (i : Interval) (lead : Int) (count : Nat) : Option Nat :=
  let place := lead - count + 1
  let (num, den) := shiftPlace i.value i.den place
  let low := num / den
  let nearest := divHalfEven num den
  if i.holds nearest place then some nearest
  else if i.holds low place then some low
  else if i.holds (low + 1) place then some (low + 1)
  else none

def Interval.search (i : Interval) (lead : Int) : Nat → Nat → Nat × Nat
  | 0, count => ((i.candidate? lead count).getD 0, count)
  | more + 1, count =>
    match i.candidate? lead count with
    | some c => (c, count)
    | none => i.search lead more (count + 1)

def digitsOf (n : Nat) : List Nat :=
  (Nat.toDigits 10 n).map fun c => c.toNat - 48

def dropTrailingZeros (ds : List Nat) : List Nat :=
  (ds.reverse.dropWhile (· == 0)).reverse

def Scaled.shortest (s : Scaled) : Digits :=
  if s.mantissa == 0 then ⟨[0], 0⟩
  else
    let i := s.interval
    let lead := leadingPlace i.value i.den
    let (found, count) := i.search lead 16 1
    let ds := digitsOf found
    ⟨dropTrailingZeros ds, lead + ds.length - count⟩

end FieldPipeline.Number
