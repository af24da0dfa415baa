import FieldPipeline.Number.Numeral
import FieldPipeline.Text.Base64
import FieldPipeline.Text.LetterCase
import FieldPipeline.Text.Blank
import FieldPipeline.Value.Equality
import FieldPipeline.Yaml.Node

/-!
The values that documents denote.
-/

namespace FieldPipeline.Yaml

open FieldPipeline.Number FieldPipeline.Calendar

namespace Node

def ungrouped (s : String) : List Char :=
  s.toList.filter (· != '_')

def signed (cs : List Char) : Except Fault (Bool × List Char) :=
  match cs with
  | [] => .error .missingPlace
  | '-' :: rest => .ok (true, rest)
  | '+' :: rest => .ok (false, rest)
  | cs => .ok (false, cs)

def wholeIn (base : Nat) (cs : List Char) : Except Fault Int :=
  match readInt? base (String.ofList cs) with
  | some n => .ok n
  | none => .error .badValue

def colonParts (cs : List Char) : List (List Char) :=
  cs.splitOn ':'

def wholeSize (cs : List Char) : Except Fault Int :=
  match cs with
  | [] => .error .missingPlace
  | ['0'] => .ok 0
  | '0' :: 'b' :: rest => wholeIn 2 rest
  | '0' :: 'x' :: rest => wholeIn 16 rest
  | '0' :: _ => wholeIn 8 cs
  | _ =>
    if cs.contains ':' then do
      let parts ← (colonParts cs).mapM (wholeIn 10)
      return parts.foldl (fun acc n => acc * 60 + n) 0
    else wholeIn 10 cs

def toInt (s : String) : Except Fault Value := do
  let (negative, cs) ← signed (ungrouped s)
  let n ← wholeSize cs
  return .int (if negative then -n else n)

def floatIn (cs : List Char) : Except Fault Float :=
  match readFloat? (String.ofList cs) with
  | some x => .ok x
  | none => .error .badValue

/-- The sum of numbers, each of which counts sixty times as much as the one before it. -/
def sixtiesSum : Float → Float → List Float → Float
  | _, acc, [] => acc
  | unit, acc, x :: rest => sixtiesSum (unit * 60) (acc + x * unit) rest

def floatSize (cs : List Char) : Except Fault Float :=
  if cs == ".inf".toList then .ok infinity
  else if cs == ".nan".toList then .ok notANumber
  else if cs.contains ':' then do
    let parts ← (colonParts cs).mapM floatIn
    return sixtiesSum 1 0 parts.reverse
  else floatIn cs

def toFloat (s : String) : Except Fault Value := do
  let (negative, cs) ← signed (Text.lower (String.ofList (ungrouped s))).toList
  let x ← floatSize cs
  return .float (if negative then -1 * x else x)

def toBool (s : String) : Except Fault Value :=
  let word := Text.lower s
  if ["yes", "true", "on"].contains word then .ok (.bool true)
  else if ["no", "false", "off"].contains word then .ok (.bool false)
  else .error .missingKey

def toBytes (s : String) : Except Fault Value :=
  let cs := s.toList
  if !cs.all fun c => c.toNat < 128 then .error .badYaml
  else match Text.readBase64? cs with
    | some bytes => .ok (.bytes bytes)
    | none => .error .badYaml

def micros (fraction : List Char) : Nat :=
  Stamp.numberOf ((fraction ++ List.replicate 6 '0').take 6)

def offsetOf : Option (Bool × Nat × Nat) → Except Fault (Option Int)
  | none => .ok none
  | some (ahead, hours, minutes) =>
    let seconds := hours * 3600 + minutes * 60
    if seconds < 86400 then .ok (some (if ahead then (seconds : Int) else -(seconds : Int)))
    else .error .badValue

def toStamp (s : String) : Except Fault Value :=
  match Stamp.read? s.toList with
  | none => .error .missingPart
  | some stamp =>
    let day : Day := ⟨stamp.year, Stamp.numberOf stamp.month, Stamp.numberOf stamp.day⟩
    match stamp.time with
    | none => if day.isValid then .ok (.day day) else .error .badValue
    | some (hour, minute, second, fraction) => do
      let offset ← offsetOf stamp.zone
      if !day.isValid || 24 ≤ hour || 60 ≤ minute || 60 ≤ second then .error .badValue
      return .moment ⟨day, hour, minute, second, micros fraction, offset⟩

def scalarValue (tag text : String) : Except Fault Value :=
  if tag == Tag.core "str" then .ok (.text text)
  else if tag == Tag.core "null" then .ok .null
  else if tag == Tag.core "bool" then toBool text
  else if tag == Tag.core "int" then toInt text
  else if tag == Tag.core "float" then toFloat text
  else if tag == Tag.core "binary" then toBytes text
  else if tag == Tag.core "timestamp" then toStamp text
  else .error .badYaml

def hasTag (name : String) : Node → Bool
  | .scalar tag _ | .sequence tag _ | .mapping tag _ => tag == Tag.core name

def scalarText? : Node → Option String
  | .scalar _ text => some text
  | .sequence _ _ => none
  | .mapping _ es => markedText? es
where
  markedText? : List (Node × Node) → Option String
    | [] => none
    | (key, value) :: rest =>
      if key.hasTag "value" then value.scalarText? else markedText? rest

def pairOf : List (Value × Value) → Except Fault Value
  | [(k, v)] => .ok (.tuple [k, v])
  | _ => .error .badYaml

def hashable (v : Value) : Except Fault Value :=
  if v.isHashable then .ok v else .error .badYaml

mutual

def toValue : Node → Except Fault Value
  | .scalar tag text => scalarValue tag text
  | .sequence tag ns =>
    if tag == Tag.core "seq" then do return .list (← toValues ns)
    else if tag == Tag.core "omap" || tag == Tag.core "pairs" then do
      return .list (← toPairs ns)
    else .error .badYaml
  | .mapping tag es =>
    if tag == Tag.core "map" then do return .dict (Value.dictOf (← toEntries es))
    else if tag == Tag.core "set" then do
      return .set (Value.setOf ((Value.dictOf (← toEntries es)).map Prod.fst))
    else match scalarText?.markedText? es with
      | some text => scalarValue tag text
      | none => .error .badYaml

def toValues : List Node → Except Fault (List Value)
  | [] => .ok []
  | n :: rest => do
    let v ← toValue n
    return v :: (← toValues rest)

def toPairs : List Node → Except Fault (List Value)
  | [] => .ok []
  | .mapping _ es :: rest => do
    let pair ← pairOf (← plainEntries es)
    return pair :: (← toPairs rest)
  | _ :: _ => .error .badYaml

def plainEntries : List (Node × Node) → Except Fault (List (Value × Value))
  | [] => .ok []
  | (key, value) :: rest => do
    let k ← toValue key
    let v ← toValue value
    return (k, v) :: (← plainEntries rest)

/-- The entries of a mapping.  Those of mappings that are merged into it come first. -/
def toEntries (es : List (Node × Node)) : Except Fault (List (Value × Value)) := do
  let merged ← mergedEntries es
  let own ← ownEntries es
  return merged ++ own

def mergedEntries : List (Node × Node) → Except Fault (List (Value × Value))
  | [] => .ok []
  | (key, value) :: rest =>
    if key.hasTag "merge" then do
      let es ← sourceEntries value
      return es ++ (← mergedEntries rest)
    else mergedEntries rest

/-- The entries of what is merged: a mapping, or mappings of which the first ones win. -/
def sourceEntries : Node → Except Fault (List (Value × Value))
  | .mapping _ es => do
    let merged ← mergedEntries es
    let own ← ownEntries es
    return merged ++ own
  | .sequence _ ns => do return (← sourcesEntries ns).reverse.flatten
  | .scalar _ _ => .error .badYaml

def sourcesEntries : List Node → Except Fault (List (List (Value × Value)))
  | [] => .ok []
  | .mapping _ es :: rest => do
    let merged ← mergedEntries es
    let own ← ownEntries es
    return (merged ++ own) :: (← sourcesEntries rest)
  | _ :: _ => .error .badYaml

def ownEntries : List (Node × Node) → Except Fault (List (Value × Value))
  | [] => .ok []
  | (key, value) :: rest =>
    if key.hasTag "merge" then ownEntries rest
    else do
      let k ← if key.hasTag "value" then .ok (.text "=") else toValue key
      let k ← hashable k
      let v ← toValue value
      return (k, v) :: (← ownEntries rest)

end

end Node

def read (text : String) : Except Fault Value := do
  let ts ← tokens (String.ofList (Text.unifyLineEnds text.toList))
  match ← Node.ofTokens ts with
  | some n => n.toValue
  | none => return .null

end FieldPipeline.Yaml
