import FieldPipeline.Text.Quoted
import FieldPipeline.Value.Basic

/-!
Values as texts.  The written form quotes texts and shows the structure of containers; the plain
form differs from it for texts and points in time only.
-/

namespace FieldPipeline.Value

open FieldPipeline.Number FieldPipeline.Calendar FieldPipeline.Text

def boolText (b : Bool) : String :=
  if b then "True" else "False"

def partText (x : Float) : String :=
  let cs := (floatText x).toList
  if cs.drop (cs.length - 2) == ['.', '0'] then String.ofList (cs.take (cs.length - 2))
  else String.ofList cs

def complexText (re im : Float) : String :=
  if re == 0 && !isNegative re then partText im ++ "j"
  else
    let joint := if isNegative im then "" else "+"
    "(" ++ partText re ++ joint ++ partText im ++ "j)"

def byteText (mark : Char) (b : UInt8) : List Char :=
  let c := Char.ofNat b.toNat
  if c == mark || c == '\\' then ['\\', c]
  else if c == '\n' then ['\\', 'n']
  else if c == '\r' then ['\\', 'r']
  else if c == '\t' then ['\\', 't']
  else if 32 ≤ b.toNat && b.toNat < 127 then [c]
  else '\\' :: 'x' :: hexDigits b.toNat 2

def bytesText (bs : List UInt8) : String :=
  let mark := quotationMark (bs.map fun b => Char.ofNat b.toNat)
  String.ofList ('b' :: mark :: bs.flatMap (byteText mark) ++ [mark])

def spanText (micros : Int) : String :=
  let days := Int.fdiv micros 86400000000
  let rest := (Int.fmod micros 86400000000).toNat
  let parts :=
    (if days == 0 then [] else ["days=" ++ toString days])
      ++ (if rest / 1000000 == 0 then [] else ["seconds=" ++ toString (rest / 1000000)])
      ++ (if rest % 1000000 == 0 then [] else ["microseconds=" ++ toString (rest % 1000000)])
  "datetime.timedelta(" ++ (if parts.isEmpty then "0" else ", ".intercalate parts) ++ ")"

def zoneText (offset : Int) : String :=
  if offset == 0 then "datetime.timezone.utc"
  else "datetime.timezone(" ++ spanText (offset * 1000000) ++ ")"

def momentText (m : Moment) : String :=
  let seconds :=
    if m.micro != 0 then [toString m.second, toString m.micro]
    else if m.second != 0 then [toString m.second]
    else []
  let zone := match m.offset with
    | some offset => ["tzinfo=" ++ zoneText offset]
    | none => []
  "datetime.datetime(" ++ ", ".intercalate ([toString m.date.year, toString m.date.month,
    toString m.date.day, toString m.hour, toString m.minute] ++ seconds ++ zone) ++ ")"

def dayText (d : Day) : String :=
  "datetime.date(" ++ ", ".intercalate [toString d.year, toString d.month, toString d.day] ++ ")"

def builtinText (f : Builtin) : String :=
  match f with
  | .int | .float | .str | .bool => "<class '" ++ f.name ++ "'>"
  | _ => "<built-in function " ++ f.name ++ ">"

def inBrackets (opening closing : String) (items : List String) : String :=
  opening ++ ", ".intercalate items ++ closing

mutual

def written : Value → String
  | .null => "None"
  | .bool b => boolText b
  | .int n => toString n
  | .float x => floatText x
  | .complex re im => complexText re im
  | .text s => quote s
  | .bytes bs => bytesText bs
  | .list xs => inBrackets "[" "]" (writtenAll xs)
  | .tuple xs =>
    match writtenAll xs with
    | [item] => "(" ++ item ++ ",)"
    | items => inBrackets "(" ")" items
  | .set xs =>
    match writtenAll xs with
    | [] => "set()"
    | items => inBrackets "\x7b" "\x7d" items
  | .dict entries => inBrackets "\x7b" "\x7d" (writtenEntries entries)
  | .moment m => momentText m
  | .day d => dayText d
  | .span s => spanText s.micros
  | .fieldRef name => "FieldRef(ref=" ++ quote name ++ ")"
  | .builtin f => builtinText f
  | .ellipsis => "Ellipsis"

def writtenAll : List Value → List String
  | [] => []
  | x :: xs => written x :: writtenAll xs

def writtenEntries : List (Value × Value) → List String
  | [] => []
  | (k, v) :: es => (written k ++ ": " ++ written v) :: writtenEntries es

end

def plain : Value → String
  | .text s => s
  | .moment m => m.written ' '
  | .day d => String.ofList d.text
  | .span s => s.text
  | .fieldRef name => "ref=" ++ quote name
  | v => written v

def writtenTexts (items : List String) : String :=
  inBrackets "[" "]" (items.map quote)

end FieldPipeline.Value
