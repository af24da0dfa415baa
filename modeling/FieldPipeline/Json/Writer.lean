import FieldPipeline.Fault
import FieldPipeline.Value.Text

/-!
Writing values as JSON texts, on one line or with one item a line.  Characters outside ASCII are
escaped.  A value that JSON has no form for is written as its plain text.
-/

namespace FieldPipeline.Json

open FieldPipeline.Number FieldPipeline.Text

def unitText (unit : Nat) : List Char :=
  '\\' :: 'u' :: hexDigits unit 4

def escape (c : Char) : List Char :=
  match c with
  | '"' => ['\\', '"']
  | '\\' => ['\\', '\\']
  | '\n' => ['\\', 'n']
  | '\r' => ['\\', 'r']
  | '\t' => ['\\', 't']
  | '\x08' => ['\\', 'b']
  | '\x0c' => ['\\', 'f']
  | _ =>
    let point := c.toNat
    if 32 ≤ point && point < 127 then [c]
    else if point < 0x10000 then unitText point
    else
      let above := point - 0x10000
      unitText (0xD800 + above / 0x400) ++ unitText (0xDC00 + above % 0x400)

def quoted (s : String) : String :=
  String.ofList ('"' :: s.toList.flatMap escape ++ ['"'])

def floatWord (x : Float) : String :=
  match scaled? x with
  | some _ => floatText x
  | none => if x.isNaN then "NaN" else if isNegative x then "-Infinity" else "Infinity"

def memberName? : Value → Option String
  | .text s => some s
  | .null => some "null"
  | .bool b => some (if b then "true" else "false")
  | .int n => some (toString n)
  | .float x => some (floatWord x)
  | _ => none

mutual

/-- A value as JSON can hold it: sequences become arrays, names become texts, and what JSON has
no form for becomes its plain text. -/
def normal : Value → Except Fault Value
  | .null => .ok .null
  | .bool b => .ok (.bool b)
  | .int n => .ok (.int n)
  | .float x => .ok (.float x)
  | .text s => .ok (.text s)
  | .list xs => (normalItems xs).map .list
  | .tuple xs => (normalItems xs).map .list
  | .dict es => (normalMembers es).map .dict
  | v => .ok (.text v.plain)

def normalItems : List Value → Except Fault (List Value)
  | [] => .ok []
  | x :: xs => do
    let x ← normal x
    let xs ← normalItems xs
    .ok (x :: xs)

def normalMembers : List (Value × Value) → Except Fault (List (Value × Value))
  | [] => .ok []
  | (k, v) :: es =>
    match memberName? k with
    | none => .error .wrongType
    | some name => do
      let v ← normal v
      let es ← normalMembers es
      .ok ((.text name, v) :: es)

end

mutual

def compact : Value → String
  | .null => "null"
  | .bool b => if b then "true" else "false"
  | .int n => toString n
  | .float x => floatWord x
  | .text s => quoted s
  | .list xs | .tuple xs => "[" ++ ", ".intercalate (compactItems xs) ++ "]"
  | .dict es => "\x7b" ++ ", ".intercalate (compactMembers es) ++ "\x7d"
  | v => quoted v.plain

def compactItems : List Value → List String
  | [] => []
  | x :: xs => compact x :: compactItems xs

def compactMembers : List (Value × Value) → List String
  | [] => []
  | (k, v) :: es =>
    (quoted ((memberName? k).getD k.plain) ++ ": " ++ compact v) :: compactMembers es

end

def block (opening closing margin : String) (items : List String) : String :=
  if items.isEmpty then opening ++ closing
  else
    let inner := "\n" ++ margin ++ "  "
    opening ++ inner ++ ("," ++ inner).intercalate items ++ "\n" ++ margin ++ closing

mutual

def indented (margin : String) : Value → String
  | .list xs | .tuple xs => block "[" "]" margin (indentedItems (margin ++ "  ") xs)
  | .dict es => block "\x7b" "\x7d" margin (indentedMembers (margin ++ "  ") es)
  | v => compact v

def indentedItems (margin : String) : List Value → List String
  | [] => []
  | x :: xs => indented margin x :: indentedItems margin xs

def indentedMembers (margin : String) : List (Value × Value) → List String
  | [] => []
  | (k, v) :: es =>
    (quoted ((memberName? k).getD k.plain) ++ ": " ++ indented margin v)
      :: indentedMembers margin es

end

end FieldPipeline.Json
