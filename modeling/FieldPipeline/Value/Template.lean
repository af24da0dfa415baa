import FieldPipeline.Number.Layout
import FieldPipeline.Number.Numeral
import FieldPipeline.Value.Order
import FieldPipeline.Value.Text

/-!
Texts with gaps, such as `%s` or `%5.2f`, filled from the members of a tuple or a mapping.  A
gap has flags, a least width, a precision and a letter that says how a value is shown.
-/

namespace FieldPipeline.Value

open FieldPipeline.Number FieldPipeline.Text

structure Gap where
  key : Option String
  left : Bool
  plus : Bool
  blank : Bool
  zeros : Bool
  marked : Bool
  width : Nat
  precision : Option Nat
  letter : Char

structure Supply where
  source : Value
  rest : List Value
  single : Bool

def takeArgument (s : Supply) : Except Fault (Value × Supply) :=
  match s.rest with
  | v :: rest => .ok (v, { s with rest })
  | [] => .error .wrongType

def readKey : Nat → List Char → List Char → Except Fault (String × List Char)
  | _, _, [] => .error .badValue
  | depth, acc, c :: cs =>
    if c == ')' then
      match depth with
      | 0 => .ok (String.ofList acc.reverse, cs)
      | d + 1 => readKey d (c :: acc) cs
    else if c == '(' then readKey (depth + 1) (c :: acc) cs
    else readKey depth (c :: acc) cs

def isFlag (c : Char) : Bool :=
  c == '-' || c == '+' || c == ' ' || c == '0' || c == '#'

def readCount (cs : List Char) (s : Supply) : Except Fault (Option Int × List Char × Supply) :=
  match cs with
  | '*' :: cs => do
    let (v, s) ← takeArgument s
    match asInt? v with
    | some n => .ok (some n, cs, s)
    | none => .error .wrongType
  | _ =>
    let ds := cs.takeWhile isDigit
    if ds.isEmpty then .ok (none, cs, s)
    else .ok (some (digitsToNat ds : Int), cs.dropWhile isDigit, s)

def readPrecision (cs : List Char) (s : Supply) :
    Except Fault (Option Nat × List Char × Supply) :=
  match cs with
  | '.' :: cs => do
    let (n, cs, s) ← readCount cs s
    .ok (some (n.getD 0).toNat, cs, s)
  | _ => .ok (none, cs, s)

def readGap (cs : List Char) (s : Supply) : Except Fault (Gap × List Char × Supply) := do
  let (key, cs) ←
    match cs with
    | '(' :: cs => do
      let (key, cs) ← readKey 0 [] cs
      pure (some key, cs)
    | _ => pure (none, cs)
  let flags := cs.takeWhile isFlag
  let (width, cs, s) ← readCount (cs.dropWhile isFlag) s
  let (precision, cs, s) ← readPrecision cs s
  let cs := match cs with
    | c :: rest => if c == 'l' || c == 'h' || c == 'L' then rest else cs
    | [] => cs
  match cs with
  | [] => .error .badValue
  | letter :: cs =>
    let left := flags.contains '-' || width.any (· < 0)
    .ok ({ key, left, plus := flags.contains '+', blank := flags.contains ' ',
           zeros := flags.contains '0', marked := flags.contains '#',
           width := (width.getD 0).natAbs, precision, letter }, cs, s)

def Gap.pad (g : Gap) (sign body : List Char) (fillZeros : Bool) : List Char :=
  let missing := g.width - (sign.length + body.length)
  if g.left then sign ++ body ++ List.replicate missing ' '
  else if fillZeros then sign ++ List.replicate missing '0' ++ body
  else List.replicate missing ' ' ++ sign ++ body

def Gap.signOf (g : Gap) (negative : Bool) : List Char :=
  if negative then ['-'] else if g.plus then ['+'] else if g.blank then [' '] else []

def Gap.fillText (g : Gap) (s : String) : List Char :=
  let cs := match g.precision with
    | some p => s.toList.take p
    | none => s.toList
  g.pad [] cs false

def Gap.fillInt (g : Gap) (n : Int) : List Char :=
  let (base, mark) :=
    if g.letter == 'x' then (16, ['0', 'x'])
    else if g.letter == 'X' then (16, ['0', 'X'])
    else if g.letter == 'o' then (8, ['0', 'o'])
    else (10, [])
  let ds := padZeros (g.precision.getD 0) (Nat.toDigits base n.natAbs)
  let ds := if g.letter == 'X' then ds.map Char.toUpper else ds
  let mark := if g.marked then mark else []
  g.pad (g.signOf (n < 0) ++ mark) ds g.zeros

def exponentForm (ds : List Char) (e : Int) (marked : Bool) : List Char :=
  let body := match ds with
    | [] => []
    | [d] => if marked then [d, '.'] else [d]
    | d :: rest => d :: '.' :: rest
  body ++ Layout.plain.exponentText e

def generalForm (s : Scaled) (precision : Nat) (marked : Bool) : List Char :=
  let p := max precision 1
  let (ds, e) := s.leading (p - 1)
  let kept := if marked then ds else
    match (ds.reverse.dropWhile (· == '0')).reverse with
    | [] => ['0']
    | kept => kept
  if e < -4 || (p : Int) ≤ e then exponentForm kept e marked
  else { Layout.plain with wholeSuffix := if marked then ['.'] else [] }.positional kept e

def Gap.fillFloat (g : Gap) (x : Float) : List Char :=
  let lower := g.letter.toLower
  let places := g.precision.getD 6
  let body := match scaled? x with
    | none => if x.isNaN then Layout.plain.notANumber else Layout.plain.infinity
    | some s =>
      if lower == 'f' then
        s.fixedText places ++ (if g.marked && places == 0 then ['.'] else [])
      else if lower == 'e' then
        let (ds, e) := s.leading places
        exponentForm ds e g.marked
      else generalForm s places g.marked
  let body := if g.letter.isUpper then body.map Char.toUpper else body
  g.pad (g.signOf (isNegative x && !x.isNaN)) body (g.zeros && x.isFinite)

def Gap.wholePart (g : Gap) (v : Value) : Except Fault Int :=
  match asInt? v with
  | some n => .ok n
  | none =>
    match v with
    | .float x =>
      if g.letter == 'x' || g.letter == 'X' || g.letter == 'o' then .error .wrongType
      else match scaled? x with
        | some s => .ok s.truncate
        | none => .error (if x.isNaN then .badValue else .tooLarge)
    | _ => .error .wrongType

def Gap.realPart (v : Value) : Except Fault Float :=
  match v with
  | .float x => .ok x
  | _ =>
    match asInt? v with
    | some n => (ofInt? n).elim (.error .tooLarge) .ok
    | none => .error .wrongType

def Gap.character (v : Value) : Except Fault String :=
  match v with
  | .text s => if s.length == 1 then .ok s else .error .wrongType
  | _ =>
    match asInt? v with
    | some n =>
      if 0 ≤ n && n < 0x110000 then .ok (String.singleton (Char.ofNat n.toNat))
      else .error .tooLarge
    | none => .error .wrongType

def escapeWide (s : String) : String :=
  String.ofList (s.toList.flatMap fun c =>
    if c.toNat < 128 then [c]
    else if c.toNat < 0x100 then '\\' :: 'x' :: hexDigits c.toNat 2
    else if c.toNat < 0x10000 then '\\' :: 'u' :: hexDigits c.toNat 4
    else '\\' :: 'U' :: hexDigits c.toNat 8)

def Gap.fill (g : Gap) (v : Value) : Except Fault (List Char) :=
  match g.letter with
  | 's' => .ok (g.fillText (plain v))
  | 'r' => .ok (g.fillText (written v))
  | 'a' => .ok (g.fillText (escapeWide (written v)))
  | 'c' => (Gap.character v).map fun s => { g with precision := none }.fillText s
  | 'd' | 'i' | 'u' | 'x' | 'X' | 'o' => (g.wholePart v).map g.fillInt
  | 'e' | 'E' | 'f' | 'F' | 'g' | 'G' => (Gap.realPart v).map g.fillFloat
  | _ => .error .badValue

def Gap.argument (g : Gap) (s : Supply) : Except Fault (Value × Supply) :=
  match g.key with
  | none => takeArgument s
  | some key =>
    match s.source with
    | .dict entries =>
      match valueAt? (.text key) entries with
      | some v => .ok (v, { s with rest := [] })
      | none => .error .missingKey
    | _ => .error .wrongType

def fillFrom : Nat → List Char → Supply → Except Fault (List Char)
  | 0, _, _ => .error .badValue
  | _ + 1, [], s => if s.rest.isEmpty || !s.single then .ok [] else .error .wrongType
  | steps + 1, '%' :: '%' :: cs, s => do
    let tail ← fillFrom steps cs s
    .ok ('%' :: tail)
  | steps + 1, '%' :: cs, s => do
    let (g, cs, s) ← readGap cs s
    if g.letter == '%' then
      let tail ← fillFrom steps cs s
      .ok ('%' :: tail)
    else
      let (v, s) ← g.argument s
      let image ← g.fill v
      let tail ← fillFrom steps cs s
      .ok (image ++ tail)
  | steps + 1, c :: cs, s => do
    let tail ← fillFrom steps cs s
    .ok (c :: tail)

/-- A template filled with the members of a tuple or with one value.  Values that are left over
are a fault, except that a value with members of its own may go unused. -/
def fillTemplate (template : String) (v : Value) : Except Fault Value :=
  let supply : Supply := match v with
    | .tuple xs => ⟨v, xs, true⟩
    | .text _ => ⟨v, [v], true⟩
    | .list _ | .dict _ | .bytes _ => ⟨v, [v], false⟩
    | _ => ⟨v, [v], true⟩
  let cs := template.toList
  (fillFrom (cs.length + 1) cs supply).map fun out => .text (String.ofList out)

end FieldPipeline.Value
