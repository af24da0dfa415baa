import FieldPipeline.Fault
import FieldPipeline.Number.Numeral
import FieldPipeline.Value.Equality

/-!
Reading JSON texts as values.  Objects become mappings that keep the order of their members; a
name that is repeated keeps its first place and its last value.  Numerals with a point or an
exponent are floating-point numbers, and the names of the infinities and of no number are
numerals too.
-/

namespace FieldPipeline.Json

open FieldPipeline.Number

def isSpace (c : Char) : Bool :=
  c == ' ' || c == '\t' || c == '\n' || c == '\r'

def skipSpace (cs : List Char) : List Char :=
  cs.dropWhile isSpace

def behind? : List Char → List Char → Option (List Char)
  | [], cs => some cs
  | _ :: _, [] => none
  | w :: ws, c :: cs => if w == c then behind? ws cs else none

def hexValue? (c : Char) : Option Nat :=
  digitIn? 16 c

def readUnit? : List Char → Option (Nat × List Char)
  | a :: b :: c :: d :: rest => do
    let a ← hexValue? a
    let b ← hexValue? b
    let c ← hexValue? c
    let d ← hexValue? d
    some (((a * 16 + b) * 16 + c) * 16 + d, rest)
  | _ => none

def isHighHalf (unit : Nat) : Bool :=
  0xD800 ≤ unit && unit < 0xDC00

def isLowHalf (unit : Nat) : Bool :=
  0xDC00 ≤ unit && unit < 0xE000

def replacement : Char := Char.ofNat 0xFFFD

def characterAt (unit : Nat) : Char :=
  if isHighHalf unit || isLowHalf unit then replacement else Char.ofNat unit

/-- The character behind a backslash and a `u`; two halves of a pair make one. -/
def readEscapedUnit? (cs : List Char) : Option (Char × List Char) := do
  let (unit, rest) ← readUnit? cs
  let single := (characterAt unit, rest)
  if isHighHalf unit then
    match behind? ['\\', 'u'] rest with
    | some more =>
      match readUnit? more with
      | some (low, tail) =>
        if isLowHalf low then
          some (Char.ofNat (0x10000 + (unit - 0xD800) * 0x400 + (low - 0xDC00)), tail)
        else some single
      | none => some single
    | none => some single
  else some single

def plainEscape? (c : Char) : Option Char :=
  match c with
  | '"' => some '"'
  | '\\' => some '\\'
  | '/' => some '/'
  | 'b' => some '\x08'
  | 'f' => some '\x0c'
  | 'n' => some '\n'
  | 'r' => some '\r'
  | 't' => some '\t'
  | _ => none

def readCharacters : Nat → List Char → List Char → Option (List Char × List Char)
  | 0, _, _ => none
  | fuel + 1, acc, cs =>
    match cs with
    | [] => none
    | '"' :: rest => some (acc, rest)
    | '\\' :: 'u' :: rest => do
      let (c, tail) ← readEscapedUnit? rest
      readCharacters fuel (c :: acc) tail
    | '\\' :: mark :: rest => do
      let c ← plainEscape? mark
      readCharacters fuel (c :: acc) rest
    | c :: rest => if c == '\\' || c.toNat < 32 then none else readCharacters fuel (c :: acc) rest

def readText? (cs : List Char) : Option (String × List Char) :=
  (readCharacters (cs.length + 1) [] cs).map fun (acc, rest) => (String.ofList acc.reverse, rest)

def readWhole? : List Char → Option (List Char × List Char)
  | '0' :: rest => some (['0'], rest)
  | cs =>
    let ds := cs.takeWhile isDigit
    if ds.isEmpty then none else some (ds, cs.drop ds.length)

def readFraction (cs : List Char) : List Char × List Char :=
  match cs with
  | '.' :: rest =>
    let ds := rest.takeWhile isDigit
    if ds.isEmpty then ([], cs) else (ds, rest.drop ds.length)
  | _ => ([], cs)

def readPower (cs : List Char) : Option Int × List Char :=
  match cs with
  | mark :: rest =>
    if mark == 'e' || mark == 'E' then
      let (negative, body) := splitSign rest
      let ds := body.takeWhile isDigit
      if ds.isEmpty then (none, cs)
      else
        let size : Int := digitsToNat ds
        (some (if negative then -size else size), body.drop ds.length)
    else (none, cs)
  | [] => (none, [])

def readNumber? (cs : List Char) : Option (Except Fault Value × List Char) := do
  let (negative, body) := match cs with
    | '-' :: rest => (true, rest)
    | _ => (false, cs)
  let (whole, afterWhole) ← readWhole? body
  let (fraction, afterFraction) := readFraction afterWhole
  let (power, rest) := readPower afterFraction
  if fraction.isEmpty && power.isNone then
    if mostDigits < whole.length then some (.error .badValue, rest)
    else
      let size : Int := digitsToNat whole
      some (.ok (.int (if negative then -size else size)), rest)
  else
    let exponent := power.getD 0 - fraction.length
    some (.ok (.float (ofDecimal negative (digitsToNat (whole ++ fraction)) exponent)), rest)

def words : List (List Char × Value) := [
  ("null".toList, .null),
  ("true".toList, .bool true),
  ("false".toList, .bool false),
  ("NaN".toList, .float notANumber),
  ("Infinity".toList, .float infinity),
  ("-Infinity".toList, .float (withSign true infinity))]

def readWord? (cs : List Char) : Option (Value × List Char) :=
  words.findSome? fun (word, v) => (behind? word cs).map fun rest => (v, rest)

def mostLevels : Nat := 990

mutual

/-- A value at the start of a text, and the rest.  Every step uses up a character, so a fuel of
more than the length of the text is enough.  The levels are those that may still be entered. -/
def readValue : Nat → Nat → List Char → Except Fault (Value × List Char)
  | 0, _, _ => .error .badJson
  | fuel + 1, levels, cs =>
    match cs with
    | '"' :: rest =>
      match readText? rest with
      | some (s, tail) => .ok (.text s, tail)
      | none => .error .badJson
    | '[' :: rest =>
      if levels = 0 then .error .tooDeep
      else match skipSpace rest with
        | ']' :: tail => .ok (.list [], tail)
        | body => do
          let (xs, tail) ← readItems fuel (levels - 1) body
          .ok (.list xs, tail)
    | '\x7b' :: rest =>
      if levels = 0 then .error .tooDeep
      else match skipSpace rest with
        | '\x7d' :: tail => .ok (.dict [], tail)
        | body => do
          let (es, tail) ← readMembers fuel (levels - 1) body
          .ok (.dict (Value.dictOf es), tail)
    | _ =>
      match readWord? cs with
      | some found => .ok found
      | none =>
        match readNumber? cs with
        | some (v, tail) => v.map fun v => (v, tail)
        | none => .error .badJson

def readItems : Nat → Nat → List Char → Except Fault (List Value × List Char)
  | 0, _, _ => .error .badJson
  | fuel + 1, levels, cs => do
    let (x, rest) ← readValue fuel levels cs
    match skipSpace rest with
    | ']' :: tail => .ok ([x], tail)
    | ',' :: tail =>
      let (xs, tail) ← readItems fuel levels (skipSpace tail)
      .ok (x :: xs, tail)
    | _ => .error .badJson

def readMembers : Nat → Nat → List Char → Except Fault (List (Value × Value) × List Char)
  | 0, _, _ => .error .badJson
  | fuel + 1, levels, cs =>
    match cs with
    | '"' :: rest =>
      match readText? rest with
      | none => .error .badJson
      | some (name, afterName) =>
        match skipSpace afterName with
        | ':' :: body => do
          let (v, rest) ← readValue fuel levels (skipSpace body)
          match skipSpace rest with
          | '\x7d' :: tail => .ok ([(.text name, v)], tail)
          | ',' :: tail =>
            let (es, tail) ← readMembers fuel levels (skipSpace tail)
            .ok ((.text name, v) :: es, tail)
          | _ => .error .badJson
        | _ => .error .badJson
    | _ => .error .badJson

end

def read (s : String) : Except Fault Value := do
  let cs := s.toList
  let (v, rest) ← readValue (cs.length + 1) mostLevels (skipSpace cs)
  if (skipSpace rest).isEmpty then .ok v else .error .badJson

end FieldPipeline.Json
