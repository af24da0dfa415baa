import FieldPipeline.Text.Table.Alphanumeric
import FieldPipeline.Text.Table.Identifier

/-!
Classes of characters that make up words, names and decimal numbers in any script.
-/

namespace FieldPipeline.Text

def isAlphanumeric (c : Char) : Bool :=
  alphanumericRanges.contains c.toNat

def isWordChar (c : Char) : Bool :=
  c == '_' || isAlphanumeric c

def isIdentifierStart (c : Char) : Bool :=
  c.isAlpha || c == '_' || (128 ≤ c.toNat && identifierStartRanges.contains c.toNat)

def isIdentifierPart (c : Char) : Bool :=
  c.isAlphanum || c == '_' || (128 ≤ c.toNat && identifierPartRanges.contains c.toNat)

/-- The code points of the digits zero; in every script the ten digits stand in one run. -/
def digitZeros : List Nat := [
    48, 1632, 1776, 1984, 2406, 2534, 2662, 2790, 2918, 3046, 3174, 3302, 3430, 3558, 3664, 3792,
    3872, 4160, 4240, 6112, 6160, 6470, 6608, 6784, 6800, 6992, 7088, 7232, 7248, 42528, 43216,
    43264, 43472, 43504, 43600, 44016, 65296, 66720, 68912, 69734, 69872, 69942, 70096, 70384,
    70736, 70864, 71248, 71360, 71472, 71904, 72016, 72784, 73040, 73120, 92768, 92864, 93008,
    120782, 120792, 120802, 120812, 120822, 123200, 123632, 125264, 130032]

def decimalDigit? (c : Char) : Option Nat :=
  let n := c.toNat
  (digitZeros.find? fun first => first ≤ n && n < first + 10).map (n - ·)

end FieldPipeline.Text
