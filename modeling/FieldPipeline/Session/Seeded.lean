import FieldPipeline.Digest.Basic
import FieldPipeline.Session.Basic
import FieldPipeline.Text.Quoted

/-!
Sources that follow from a seed.  Without the seed their values cannot be foreseen.
-/

namespace FieldPipeline.Sources

def draw (seed : List UInt8) (source : UInt8) (reading : Nat) : Nat :=
  Digest.bigNumber (Digest.sha256 (source :: Digest.bigBytes 8 reading ++ seed))

def identifierOf (number : Nat) : String :=
  let digits (shift places : Nat) := Text.hexDigits (number >>> shift) places
  let variant := Text.hexDigit (8 + (number >>> 120) % 4)
  String.ofList (digits 0 8 ++ '-' :: digits 32 4 ++ '-' :: '4' :: digits 48 3
    ++ '-' :: variant :: digits 60 3 ++ '-' :: digits 72 12)

def ofSeed (time : Nat) (localOffset : Int) (seed : List UInt8) : Sources where
  instant reading := time + reading
  localOffset := localOffset
  whole reading low high := low + draw seed 0 reading % (high - low + 1)
  place reading count := draw seed 1 reading % count
  fraction := (draw seed 2 0 % Nat.pow 2 53).toFloat / 9007199254740992
  identifier reading := identifierOf (draw seed 3 reading)
  stamp := time

end FieldPipeline.Sources
