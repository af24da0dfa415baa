import FieldPipeline.Text.Blank
import FieldPipeline.Text.Letter
import FieldPipeline.Number.Binary

/-!
Reading numbers from texts.  A whole number may have a sign, a prefix that names its base and
single underscores between its digits; a floating-point number is a decimal numeral or the name
of an infinity or of no number.
-/

namespace FieldPipeline.Number

open FieldPipeline.Text

def isSpacing (c : Char) : Bool :=
  c == ' ' || (9 ≤ c.toNat && c.toNat ≤ 13)

def trimSpacing (cs : List Char) : List Char :=
  (((cs.dropWhile isSpacing).reverse).dropWhile isSpacing).reverse

def plainForm (cs : List Char) : List Char :=
  cs.map fun c =>
    if c.toNat < 128 then c
    else match decimalDigit? c with
      | some d => Char.ofNat (48 + d)
      | none => if isBlank c then ' ' else c

def splitSign : List Char → Bool × List Char
  | '-' :: rest => (true, rest)
  | '+' :: rest => (false, rest)
  | cs => (false, cs)

def digitValue? (c : Char) : Option Nat :=
  if '0' ≤ c && c ≤ '9' then some (c.toNat - 48)
  else if 'a' ≤ c && c ≤ 'z' then some (c.toNat - 87)
  else if 'A' ≤ c && c ≤ 'Z' then some (c.toNat - 55)
  else none

def digitIn? (base : Nat) (c : Char) : Option Nat :=
  (digitValue? c).filter (· < base)

/-- Digits of the base with single underscores between them, read after `acc`.  The flag tells
whether the last character was a digit. -/
def readDigits (base : Nat) : Bool → Nat → List Char → Option Nat
  | afterDigit, acc, [] => if afterDigit then some acc else none
  | afterDigit, acc, c :: rest =>
    if c == '_' then if afterDigit then readDigits base false acc rest else none
    else match digitIn? base c with
      | some d => readDigits base true (acc * base + d) rest
      | none => none

def prefixBase? (c : Char) : Option Nat :=
  if c == 'x' || c == 'X' then some 16
  else if c == 'o' || c == 'O' then some 8
  else if c == 'b' || c == 'B' then some 2
  else none

def mostDigits : Nat := 4300

def isPowerOfTwo (base : Nat) : Bool :=
  base == 2 || base == 4 || base == 8 || base == 16 || base == 32

def unsignedInt? (base : Nat) (cs : List Char) : Option Nat :=
  let plain (b : Nat) (ds : List Char) : Option Nat :=
    if !isPowerOfTwo b && mostDigits < ds.countP (· != '_') then none
    else readDigits b false 0 ds
  let prefixed (ds : List Char) : List Char :=
    match ds with
    | '_' :: rest => rest
    | _ => ds
  match cs with
  | '0' :: mark :: rest =>
    match prefixBase? mark with
    | some named =>
      if base == 0 || base == named then plain named (prefixed rest)
      else plain base cs
    | none =>
      if base == 0 then if cs.all fun c => c == '0' || c == '_' then plain 10 cs else none
      else plain base cs
  | _ => plain (if base == 0 then 10 else base) cs

/-- The whole number that a text denotes in a base from 2 to 36, or in the base that its prefix
names when `base` is 0. -/
def readInt? (base : Nat) (s : String) : Option Int :=
  if base == 1 || 36 < base then none
  else
    let (negative, body) := splitSign (trimSpacing (plainForm s.toList))
    (unsignedInt? base body).map fun n => if negative then -(n : Int) else n

structure Numeral where
  negative : Bool
  digits : Nat
  exponent : Int
  deriving DecidableEq, Repr

def isDigit (c : Char) : Bool :=
  '0' ≤ c && c ≤ '9'

def digitsToNat (ds : List Char) : Nat :=
  ds.foldl (fun acc c => acc * 10 + (c.toNat - 48)) 0

def readExponent? : List Char → Option Int
  | [] => some 0
  | mark :: rest =>
    if mark == 'e' || mark == 'E' then
      let (negative, ds) := splitSign rest
      if ds.isEmpty || !ds.all isDigit then none
      else
        let size : Int := digitsToNat ds
        some (if negative then -size else size)
    else none

def readNumeral? (cs : List Char) : Option Numeral :=
  let (negative, body) := splitSign cs
  let whole := body.takeWhile isDigit
  let afterWhole := body.dropWhile isDigit
  let (fraction, tail) :=
    match afterWhole with
    | '.' :: rest => (rest.takeWhile isDigit, rest.dropWhile isDigit)
    | _ => ([], afterWhole)
  if whole.isEmpty && fraction.isEmpty then none
  else (readExponent? tail).map fun e =>
    ⟨negative, digitsToNat (whole ++ fraction), e - fraction.length⟩

def Numeral.toFloat (n : Numeral) : Float :=
  ofDecimal n.negative n.digits n.exponent

def lowerAscii (cs : List Char) : List Char :=
  cs.map Char.toLower

/-- The text without its underscores, each of which must stand between two digits.  `before` is
the character in front. -/
def ungroup? (before : Char) : List Char → Option (List Char)
  | [] => some []
  | [c] => if c == '_' then none else some [c]
  | c :: d :: rest =>
    if c == '_' then if isDigit before && isDigit d then ungroup? c (d :: rest) else none
    else (ungroup? c (d :: rest)).map (c :: ·)

def readSpecial? (cs : List Char) : Option Float :=
  let (negative, body) := splitSign cs
  match String.ofList (lowerAscii body) with
  | "inf" | "infinity" => some (withSign negative infinity)
  | "nan" => some (withSign negative notANumber)
  | _ => none

def readFloat? (s : String) : Option Float := do
  let cs ← ungroup? ' ' (trimSpacing (plainForm s.toList))
  match readNumeral? cs with
  | some n => some n.toFloat
  | none => readSpecial? cs

end FieldPipeline.Number
