/-!
Octets written in base 64.
-/

namespace FieldPipeline.Text

def base64Value? (c : Char) : Option Nat :=
  if 'A' ≤ c && c ≤ 'Z' then some (c.toNat - 65)
  else if 'a' ≤ c && c ≤ 'z' then some (c.toNat - 71)
  else if '0' ≤ c && c ≤ '9' then some (c.toNat + 4)
  else if c == '+' then some 62
  else if c == '/' then some 63
  else none

/-- The digits of a text up to its end or its padding.  Other characters are left out of account.
`place` counts the digits since the last group of four, and `pads` the padding since the last
digit.  The flag tells whether the last group is complete. -/
def base64Digits : Nat → Nat → List Char → List Nat × Bool
  | place, _, [] => ([], place == 0)
  | place, pads, c :: rest =>
    if c == '=' then
      if 2 ≤ place && 4 ≤ place + pads + 1 then ([], true)
      else base64Digits place (if 2 ≤ place then pads + 1 else pads) rest
    else match base64Value? c with
      | none => base64Digits place pads rest
      | some d =>
        let (ds, complete) := base64Digits ((place + 1) % 4) 0 rest
        (d :: ds, complete)

/-- The octets that digits denote; digits left over at the end count for as much as they hold. -/
def base64Octets : List Nat → List UInt8
  | a :: b :: c :: d :: rest =>
    UInt8.ofNat (a * 4 + b / 16) :: UInt8.ofNat (b % 16 * 16 + c / 4)
      :: UInt8.ofNat (c % 4 * 64 + d) :: base64Octets rest
  | [a, b, c] => [UInt8.ofNat (a * 4 + b / 16), UInt8.ofNat (b % 16 * 16 + c / 4)]
  | [a, b] => [UInt8.ofNat (a * 4 + b / 16)]
  | _ => []

def readBase64? (cs : List Char) : Option (List UInt8) :=
  match base64Digits 0 0 cs with
  | (ds, true) => some (base64Octets ds)
  | _ => none

end FieldPipeline.Text
