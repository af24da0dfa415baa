import FieldPipeline.Yaml.Token

/-!
What kind of value a plain scalar is, which its spelling tells.
-/

namespace FieldPipeline.Yaml

namespace Tag

def beginning : String := "tag:yaml.org,2002:"

def core (name : String) : String :=
  beginning ++ name

end Tag

namespace Plain

open FieldPipeline.Yaml.Token (isDigit)

def unsigned : List Char → List Char
  | '-' :: rest => rest
  | '+' :: rest => rest
  | cs => cs

def isGrouped (p : Char → Bool) (cs : List Char) : Bool :=
  cs.all fun c => p c || c == '_'

/-- Groups of at most two digits, the first of two less than six, with colons in front. -/
def isSixties : List Char → Bool
  | [':', a] => isDigit a
  | [':', a, b] => '0' ≤ a && a ≤ '5' && isDigit b
  | ':' :: a :: ':' :: rest => isDigit a && isSixties (':' :: rest)
  | ':' :: a :: b :: ':' :: rest => '0' ≤ a && a ≤ '5' && isDigit b && isSixties (':' :: rest)
  | _ => false

def grouped (cs : List Char) : List Char × List Char :=
  let taken := cs.takeWhile fun c => isDigit c || c == '_'
  (taken, cs.drop taken.length)

def isHex (c : Char) : Bool :=
  isDigit c || ('a' ≤ c && c ≤ 'f') || ('A' ≤ c && c ≤ 'F')

def isInt (cs : List Char) : Bool :=
  match unsigned cs with
  | ['0'] => true
  | '0' :: 'b' :: rest => !rest.isEmpty && isGrouped (fun c => c == '0' || c == '1') rest
  | '0' :: 'x' :: rest => !rest.isEmpty && isGrouped isHex rest
  | '0' :: rest => isGrouped (fun c => '0' ≤ c && c ≤ '7') rest
  | c :: rest =>
    isDigit c &&
      let behind := (grouped rest).2
      behind.isEmpty || isSixties behind
  | [] => false

def isExponent : List Char → Bool
  | [] => true
  | e :: sign :: d :: rest =>
    (e == 'e' || e == 'E') && (sign == '-' || sign == '+') && (d :: rest).all isDigit
  | _ => false

def isSixtiesFraction (cs : List Char) : Bool :=
  let front := cs.takeWhile (· != '.')
  match cs.drop front.length with
  | _ :: rest => isSixties front && isGrouped isDigit rest
  | [] => false

def isFloat (cs : List Char) : Bool :=
  match cs with
  | '.' :: d :: rest =>
    (isDigit d && isExponent (grouped rest).2)
      || [".inf", ".Inf", ".INF", ".nan", ".NaN", ".NAN"].contains (String.ofList cs)
  | _ =>
    match unsigned cs with
    | '.' :: rest => ["inf", "Inf", "INF"].contains (String.ofList rest)
    | c :: rest =>
      isDigit c &&
        match (grouped rest).2 with
        | '.' :: rest => isExponent (grouped rest).2
        | behind => isSixtiesFraction behind
    | [] => false

def isBool (s : String) : Bool :=
  ["yes", "Yes", "YES", "no", "No", "NO", "true", "True", "TRUE", "false", "False", "FALSE",
    "on", "On", "ON", "off", "Off", "OFF"].contains s

def isNull (s : String) : Bool :=
  ["~", "null", "Null", "NULL", ""].contains s

end Plain

structure Stamp where
  year : Nat
  month : List Char
  day : List Char
  /-- Hour, minute, second and the digits of the fraction. -/
  time : Option (Nat × Nat × Nat × List Char) := none
  /-- Whether the zone is ahead, and its hours and minutes. -/
  zone : Option (Bool × Nat × Nat) := none

namespace Stamp

open FieldPipeline.Yaml.Token (isDigit)

def numberOf (ds : List Char) : Nat :=
  ds.foldl (fun acc d => acc * 10 + (d.toNat - 48)) 0

def oneOrTwo? : List Char → Option (List Char × List Char)
  | a :: b :: rest =>
    if !isDigit a then none else if isDigit b then some ([a, b], rest) else some ([a], b :: rest)
  | [a] => if isDigit a then some ([a], []) else none
  | [] => none

def two? : List Char → Option (Nat × List Char)
  | a :: b :: rest => if isDigit a && isDigit b then some (numberOf [a, b], rest) else none
  | _ => none

def expect? (mark : Char) : List Char → Option (List Char)
  | c :: rest => if c == mark then some rest else none
  | [] => none

def zone? (cs : List Char) : Option (Option (Bool × Nat × Nat)) :=
  match cs.dropWhile isGap with
  | [] => if cs.isEmpty then some none else none
  | ['Z'] => some (some (true, 0, 0))
  | sign :: rest => do
    if sign != '+' && sign != '-' then none
    let (hours, rest) ← oneOrTwo? rest
    let minutes ← match rest with
      | [] => some 0
      | ':' :: rest => do
        let (n, rest) ← two? rest
        if rest.isEmpty then some n else none
      | _ => none
    return some (sign == '+', numberOf hours, minutes)

def behindDay? : List Char → Option (List Char)
  | 'T' :: rest => some rest
  | 't' :: rest => some rest
  | c :: rest => if isGap c then some (rest.dropWhile isGap) else none
  | [] => none

def withTime? (s : Stamp) (cs : List Char) : Option Stamp := do
  let (hour, cs) ← oneOrTwo? (← behindDay? cs)
  let (minute, cs) ← two? (← expect? ':' cs)
  let (second, cs) ← two? (← expect? ':' cs)
  let (fraction, cs) := match cs with
    | '.' :: rest => (rest.takeWhile isDigit, rest.dropWhile isDigit)
    | _ => ([], cs)
  let zone ← zone? cs
  return { s with time := some (numberOf hour, minute, second, fraction), zone }

def read? (cs : List Char) : Option Stamp := do
  let year := cs.take 4
  if year.length ≠ 4 || !year.all isDigit then none
  let (month, cs) ← oneOrTwo? (← expect? '-' (cs.drop 4))
  let (day, cs) ← oneOrTwo? (← expect? '-' cs)
  let s : Stamp := { year := numberOf year, month, day }
  if cs.isEmpty then return s else s.withTime? cs

/-- Whether a plain scalar is taken for a point in time.  A day alone needs all its digits. -/
def isPlain (cs : List Char) : Bool :=
  (read? cs).any fun s => s.time.isSome || (s.month.length = 2 && s.day.length = 2)

end Stamp

def plainTag (s : String) : String :=
  let cs := s.toList
  Tag.core <|
    if Plain.isBool s then "bool"
    else if Plain.isFloat cs then "float"
    else if Plain.isInt cs then "int"
    else if s == "<<" then "merge"
    else if Plain.isNull s then "null"
    else if Stamp.isPlain cs then "timestamp"
    else if s == "=" then "value"
    else "str"

end FieldPipeline.Yaml
