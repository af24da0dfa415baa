import FieldPipeline.Calendar.Reader
import FieldPipeline.Failure.Basic
import FieldPipeline.Field.Basic
import FieldPipeline.Settings.Basic

/-!
Coercing values to the type of a field.  Texts are trimmed and measured, numerals in texts are
read, and every other conversion that would lose something is refused.
-/

namespace FieldPipeline.Field

open FieldPipeline.Number FieldPipeline.Text FieldPipeline.Calendar

def issue (kind : String) : Fault :=
  .malformed [⟨[], kind⟩]

/-- White space around numerals, a little less than what counts as blank in texts. -/
def isSpace (c : Char) : Bool :=
  isBlank c && !(28 ≤ c.toNat && c.toNat ≤ 31)

def trimmed (cs : List Char) : List Char :=
  ((cs.dropWhile isSpace).reverse.dropWhile isSpace).reverse

def joinedDigits? : List Char → Option (List Char)
  | [] => none
  | [c] => if isDigit c then some [c] else none
  | c :: '_' :: rest => if isDigit c then (joinedDigits? rest).map (c :: ·) else none
  | c :: rest => if isDigit c then (joinedDigits? rest).map (c :: ·) else none

def withoutZeroFraction (cs : List Char) : List Char :=
  let whole := cs.takeWhile (· != '.')
  let fraction := cs.drop (whole.length + 1)
  if !fraction.isEmpty && fraction.all (· == '0') then whole else cs

def longestNumeral : Nat := 4300

def wholeOfText (s : String) : Except Fault Value :=
  let (negative, body) := splitSign (trimmed s.toList)
  match joinedDigits? (withoutZeroFraction body) with
  | none => .error (issue "int_parsing")
  | some ds =>
    if longestNumeral < ds.length then .error (issue "int_parsing_size")
    else
      let size : Int := digitsToNat ds
      .ok (.int (if negative then -size else size))

def wholeOfFloat (x : Float) : Except Fault Value :=
  match scaled? x with
  | none => .error (issue "finite_number")
  | some s =>
    if x != x.floor then .error (issue "int_from_float")
    else if s.truncate.natAbs < Nat.pow 2 63 then .ok (.int s.truncate)
    else .error (issue "int_parsing_size")

def toInteger : Value → Except Fault Value
  | .text s => wholeOfText s
  | .float x => wholeOfFloat x
  | v =>
    match v.asInt? with
    | some n => .ok (.int n)
    | none => .error (issue "int_type")

def ungrouped? (cs : List Char) : Option (List Char) :=
  if cs.head? == some '_' || cs.getLast? == some '_' || hasDouble cs then none
  else some (cs.filter (· != '_'))
where
  hasDouble : List Char → Bool
    | '_' :: '_' :: _ => true
    | _ :: rest => hasDouble rest
    | [] => false

def floatOfChars? (cs : List Char) : Option Float :=
  match readNumeral? cs with
  | some n => some n.toFloat
  | none => readSpecial? cs

def numberOfText (s : String) : Except Fault Value :=
  match floatOfChars? (trimmed s.toList) with
  | some x => .ok (.float x)
  | none =>
    match (ungrouped? s.toList).bind floatOfChars? with
    | some x => .ok (.float x)
    | none => .error (issue "float_parsing")

def toNumber : Value → Except Fault Value
  | .text s => numberOfText s
  | .float x => .ok (.float x)
  | v =>
    match v.asInt?.bind ofInt? with
    | some x => .ok (.float x)
    | none => .error (issue "float_type")

def truthOfWord? (word : String) : Option Bool :=
  if ["1", "on", "t", "true", "y", "yes"].contains word then some true
  else if ["0", "off", "f", "false", "n", "no"].contains word then some false
  else none

def truthOfNumber (n : Int) : Except Fault Value :=
  if n == 0 then .ok (.bool false)
  else if n == 1 then .ok (.bool true)
  else .error (issue "bool_parsing")

def fitsWord (n : Int) : Bool :=
  -n ≤ Nat.pow 2 63 && n < Nat.pow 2 63

def toBoolean : Value → Except Fault Value
  | .bool b => .ok (.bool b)
  | .text s =>
    match truthOfWord? (lower s) with
    | some b => .ok (.bool b)
    | none => .error (issue "bool_parsing")
  | .int n => if fitsWord n then truthOfNumber n else .error (issue "bool_type")
  | .float x =>
    match wholeOfFloat x with
    | .ok (.int n) => truthOfNumber n
    | _ => .error (issue "bool_type")
  | _ => .error (issue "bool_type")

def momentOr (kind : String) (m : Option Moment) : Except Fault Value :=
  match m with
  | some m => .ok (.moment m)
  | none => .error (issue kind)

def toDatetime : Value → Except Fault Value
  | .moment m => .ok (.moment m)
  | .day d => .ok (.moment ⟨d, 0, 0, 0, 0, none⟩)
  | .text s => momentOr "datetime_from_date_parsing" (readMoment? s)
  | .int n => momentOr "datetime_parsing" (ofEpochInt? n)
  | .float x => momentOr "datetime_parsing" (ofEpochFloat? x)
  | _ => .error (issue "datetime_type")

def toArray : Value → Except Fault Value
  | .list xs | .tuple xs | .set xs => .ok (.list xs)
  | _ => .error (issue "list_type")

def toObject : Value → Except Fault Value
  | .dict entries => .ok (.dict entries)
  | _ => .error (issue "dict_type")

def toText (settings : Settings) (f : Field) (v : Value) : Except Failure Value :=
  let text := if settings.trimText.isTrue then strip v.plain else v.plain
  let length : Int := text.length
  match f.fixedLength, f.maxLength with
  | some n, most =>
    if length != n then .error (.field (.wrongLength n)) else withinMost text length most
  | none, most => withinMost text length most
where
  withinMost (text : String) (length : Int) (most : Option Int) : Except Failure Value :=
    match most with
    | some n => if n < length then .error (.field (.tooLong n)) else .ok (.text text)
    | none => .ok (.text text)

def toChoice (f : Field) (v : Value) : Except Failure Value :=
  let text := strip v.plain
  match f.values with
  | some values =>
    if values.contains text then .ok (.text text) else .error (.field (.notOneOf text values))
  | none => .ok (.text text)

def coerceTo (settings : Settings) (f : Field) (type : BaseType) (v : Value) :
    Except Failure Value :=
  match type with
  | .text => toText settings f v
  | .enum => toChoice f v
  | .integer => (toInteger v).mapError .fault
  | .number => (toNumber v).mapError .fault
  | .boolean => (toBoolean v).mapError .fault
  | .datetime => (toDatetime v).mapError .fault
  | .array => (toArray v).mapError .fault
  | .object => (toObject v).mapError .fault

def coerce (settings : Settings) (f : Field) (v : Value) : Except Failure Value :=
  match BaseType.named? f.type with
  | none => .error (.field (.unknownType f.type))
  | some type => coerceTo settings f type v

end FieldPipeline.Field
