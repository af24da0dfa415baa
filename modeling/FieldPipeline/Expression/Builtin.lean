import FieldPipeline.Text.LetterCase
import FieldPipeline.Number.Layout
import FieldPipeline.Number.Binary
import FieldPipeline.Value.Arithmetic
import FieldPipeline.Value.Order
import FieldPipeline.Record

/-!
The functions that an expression may call.  Each takes its arguments by place and by name and
refuses any that it does not know.
-/

namespace FieldPipeline.Builtin

open FieldPipeline.Number FieldPipeline.Text FieldPipeline.Value

structure Arguments where
  placed : List Value
  named : Record

namespace Arguments

def single? (a : Arguments) (name : String) : Option Value :=
  match a.placed, a.named with
  | [v], [] => some v
  | [], [(key, v)] => if key = name then some v else none
  | _, _ => none

def alone (a : Arguments) : Except Fault Value :=
  match a.placed, a.named with
  | [v], [] => .ok v
  | _, _ => .error .wrongType

def namesAmong (a : Arguments) (names : List String) : Bool :=
  a.named.all fun e => names.contains e.1

end Arguments

def visit (v : Value) : Except Fault (List Value) :=
  match v.members? with
  | some xs => .ok xs
  | none => .error .wrongType

def length (v : Value) : Except Fault Value :=
  match v.size? with
  | some n => .ok (.int n)
  | none => .error .wrongType

def wholeFloat (x : Float) (part : Scaled → Int) : Except Fault Int :=
  match scaled? x with
  | some s => .ok (part s)
  | none => .error (if x.isNaN then .badValue else .tooLarge)

def numeralText (bs : List UInt8) : String :=
  String.ofList (bs.map fun b => if b.toNat < 128 then Char.ofNat b.toNat else '?')

def readWhole (base : Nat) (s : String) : Except Fault Value :=
  match readInt? base s with
  | some n => .ok (.int n)
  | none => .error .badValue

def toInt : Value → Except Fault Value
  | .float x => (wholeFloat x Scaled.truncate).map .int
  | .text s => readWhole 10 s
  | .bytes bs => readWhole 10 (numeralText bs)
  | v =>
    match asInt? v with
    | some n => .ok (.int n)
    | none => .error .wrongType

def whole (v : Value) : Except Fault Int := do
  match ← toInt v with
  | .int n => return n
  | _ => throw .wrongType

def toIntIn (base : Value) (v : Value) : Except Fault Value :=
  match asInt? base with
  | none => .error .wrongType
  | some b =>
    if b < 0 || b == 1 || 36 < b then .error .badValue
    else match v with
      | .text s => readWhole b.toNat s
      | .bytes bs => readWhole b.toNat (numeralText bs)
      | _ => .error .wrongType

def callInt (a : Arguments) : Except Fault Value :=
  match a.placed, a.named with
  | [], [] => .ok (.int 0)
  | [v], [] => toInt v
  | [v, base], [] => toIntIn base v
  | [v], [("base", base)] => toIntIn base v
  | _, _ => .error .wrongType

def readFloat (s : String) : Except Fault Value :=
  match readFloat? s with
  | some x => .ok (.float x)
  | none => .error .badValue

def toFloat : Value → Except Fault Value
  | .float x => .ok (.float x)
  | .text s => readFloat s
  | .bytes bs => readFloat (numeralText bs)
  | v =>
    match asInt? v with
    | some n => (floatOf n).map .float
    | none => .error .wrongType

def callFloat (a : Arguments) : Except Fault Value :=
  match a.placed, a.named with
  | [], [] => .ok (.float (Float.ofBits 0))
  | [v], [] => toFloat v
  | _, _ => .error .wrongType

def decode (bs : List UInt8) (encoding : String) : Except Fault Value :=
  match (Text.lower encoding).replace "_" "-" with
  | "utf-8" | "utf8" =>
    match String.fromUTF8? ⟨bs.toArray⟩ with
    | some s => .ok (.text s)
    | none => .error .badText
  | "ascii" | "us-ascii" =>
    if bs.all (fun b => b.toNat < 128) then .ok (.text (numeralText bs)) else .error .badText
  | "latin-1" | "latin1" | "iso-8859-1" =>
    .ok (.text (String.ofList (bs.map fun b => Char.ofNat b.toNat)))
  | _ => .error .missingKey

def callStr (a : Arguments) : Except Fault Value :=
  match a.placed, a.named with
  | [], [] => .ok (.text "")
  | [v], [] => .ok (.text v.plain)
  | [], [("object", v)] => .ok (.text v.plain)
  | [.bytes bs, .text encoding], [] => decode bs encoding
  | [.bytes bs], [("encoding", .text encoding)] => decode bs encoding
  | _, _ => .error .wrongType

def place? : Option Value → Except Fault (Option Int)
  | none => .ok none
  | some .null => .ok none
  | some v =>
    match asInt? v with
    | some n => .ok (some n)
    | none => .error .wrongType

def roundInt (n : Int) : Option Int → Int
  | none => n
  | some p => if 0 ≤ p then n else roundToMultiple n (Nat.pow 10 p.natAbs)

def roundFloat (x : Float) : Option Int → Except Fault Value
  | none => (wholeFloat x Scaled.roundEven).map .int
  | some p =>
    match roundFloat? x p with
    | some y => .ok (.float y)
    | none => .error .tooLarge

def roundValue (v : Value) (places : Option Value) : Except Fault Value :=
  match v with
  | .float x => do roundFloat x (← place? places)
  | v =>
    match asInt? v with
    | some n => do
      let p ← place? places
      .ok (.int (roundInt n p))
    | none => .error .wrongType

def callRound (a : Arguments) : Except Fault Value :=
  match a.placed, a.named with
  | [v], [] => roundValue v none
  | [v, places], [] => roundValue v (some places)
  | [v], [("ndigits", places)] => roundValue v (some places)
  | [], [("number", v)] => roundValue v none
  | [], [("number", v), ("ndigits", places)] => roundValue v (some places)
  | [], [("ndigits", places), ("number", v)] => roundValue v (some places)
  | _, _ => .error .wrongType

def callBool (a : Arguments) : Except Fault Value :=
  match a.placed, a.named with
  | [], [] => .ok (.bool false)
  | [v], [] => .ok (.bool v.isTrue)
  | _, _ => .error .wrongType

def sumFrom (start : Value) (xs : List Value) : Except Fault Value :=
  xs.foldlM Value.add start

def callSum (a : Arguments) : Except Fault Value := do
  let (source, start) ← match a.placed, a.named with
    | [v], [] => .ok (v, .int 0)
    | [v, start], [] => .ok (v, start)
    | [v], [("start", start)] => .ok (v, start)
    | _, _ => .error .wrongType
  let xs ← visit source
  match start with
  | .text _ | .bytes _ => .error .wrongType
  | _ => sumFrom start xs

def changeCase (change : String → String) (a : Arguments) : Except Fault Value :=
  match a.single? "s" with
  | some v => .ok (.text (change v.plain))
  | none => .error .wrongType

def pick (better : Relation) (best : Value × Value) : List (Value × Value) → Except Fault Value
  | [] => .ok best.1
  | item :: rest => do
    let wins ← relate better item.2 best.2
    pick better (if wins then item else best) rest

def candidates (a : Arguments) : Except Fault (List Value) :=
  match a.placed with
  | [] => .error .wrongType
  | [v] => visit v
  | vs => if a.named.has "default" then .error .wrongType else .ok vs

def choose (better : Relation) (judge : Builtin → Value → Except Fault Value) (a : Arguments) :
    Except Fault Value := do
  if !a.namesAmong ["key", "default"] then .error .wrongType
  let xs ← candidates a
  let judged ← match a.named.getOrNull "key" with
    | .null => .ok (xs.map fun x => (x, x))
    | .builtin f => xs.mapM fun x => (judge f x).map fun j => (x, j)
    | _ => if xs.isEmpty then .ok [] else .error .wrongType
  match judged with
  | first :: rest => pick better first rest
  | [] =>
    match a.named.get? "default" with
    | some v => .ok v
    | none => .error .badValue

def callPlain (f : Builtin) (a : Arguments) : Except Fault Value :=
  match f with
  | .abs => do Value.absolute (← a.alone)
  | .round => callRound a
  | .int => callInt a
  | .float => callFloat a
  | .str => callStr a
  | .len => do length (← a.alone)
  | .sum => callSum a
  | .all => do
    let xs ← visit (← a.alone)
    .ok (.bool (xs.all Value.isTrue))
  | .any => do
    let xs ← visit (← a.alone)
    .ok (.bool (xs.any Value.isTrue))
  | .bool => callBool a
  | .lower => changeCase Text.lower a
  | .upper => changeCase Text.upper a
  | .min => choose .lt (fun _ _ => .error .wrongType) a
  | .max => choose .gt (fun _ _ => .error .wrongType) a

/-- What a function makes of an item that it judges.  The least and the greatest member of an
item are found without a further judge. -/
def judge (f : Builtin) (v : Value) : Except Fault Value :=
  callPlain f ⟨[v], []⟩

def call (f : Builtin) (a : Arguments) : Except Fault Value :=
  match f with
  | .min => choose .lt judge a
  | .max => choose .gt judge a
  | f => callPlain f a

end FieldPipeline.Builtin
