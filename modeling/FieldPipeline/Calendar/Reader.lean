import FieldPipeline.Calendar.Moment
import FieldPipeline.Number.Numeral

/-!
Reading moments from texts and numbers.  A text is a day, optionally followed by a time and an
offset, or a number of seconds from the beginning of 1970; a number above the watershed counts
milliseconds.
-/

namespace FieldPipeline.Calendar

open FieldPipeline.Number

def takeNumber? (width : Nat) (cs : List Char) : Option (Nat × List Char) :=
  let ds := cs.take width
  if ds.length == width && ds.all isDigit then some (digitsToNat ds, cs.drop width) else none

def expectChar? (allowed : List Char) : List Char → Option (List Char)
  | c :: rest => if allowed.contains c then some rest else none
  | [] => none

def readDay? (cs : List Char) : Option (Day × List Char) := do
  let (year, cs) ← takeNumber? 4 cs
  let (month, cs) ← takeNumber? 2 (← expectChar? ['-'] cs)
  let (day, cs) ← takeNumber? 2 (← expectChar? ['-'] cs)
  let d : Day := ⟨year, month, day⟩
  if d.isValid then some (d, cs) else none

/-- The fraction of a second in microseconds; further digits are dropped. -/
def readFraction? (cs : List Char) : Option (Nat × List Char) :=
  let ds := cs.takeWhile isDigit
  if ds.isEmpty then none
  else some (digitsToNat ((ds ++ List.replicate 6 '0').take 6), cs.dropWhile isDigit)

def readSeconds? : List Char → Option (Nat × Nat × List Char)
  | ':' :: cs => do
    let (second, cs) ← takeNumber? 2 cs
    match cs with
    | '.' :: rest | ',' :: rest =>
      let (micro, rest) ← readFraction? rest
      some (second, micro, rest)
    | _ => some (second, 0, cs)
  | cs => some (0, 0, cs)

def readOffset? : List Char → Option (Option Int)
  | [] => some none
  | ['Z'] | ['z'] => some (some 0)
  | sign :: cs => do
    let negative ←
      if sign == '+' then some false
      else if sign == '-' || sign == Char.ofNat 0x2212 then some true
      else none
    let (hours, cs) ← takeNumber? 2 cs
    let (minutes, cs) ← takeNumber? 2 ((expectChar? [':'] cs).getD cs)
    let size : Int := hours * 3600 + minutes * 60
    if !cs.isEmpty || 60 ≤ minutes || 24 ≤ hours then none
    else some (some (if negative then -size else size))

def readTime? (date : Day) (cs : List Char) : Option Moment := do
  let (hour, cs) ← takeNumber? 2 cs
  let (minute, cs) ← takeNumber? 2 (← expectChar? [':'] cs)
  let (second, micro, cs) ← readSeconds? cs
  let offset ← readOffset? cs
  if hour < 24 && minute < 60 && second < 60 then
    some ⟨date, hour, minute, second, micro, offset⟩
  else none

def readWritten? (cs : List Char) : Option Moment := do
  let (date, cs) ← readDay? cs
  match cs with
  | [] => some ⟨date, 0, 0, 0, 0, none⟩
  | separator :: rest =>
    if ['T', 't', ' ', '_'].contains separator then readTime? date rest else none

/-- Numbers of greater size count milliseconds instead of seconds. -/
def watershed : Nat := 20000000000

def ofEpochMicros? (micros : Int) : Option Moment :=
  if -62135596800000000 ≤ micros && micros < 253402300800000000 then
    some (Moment.ofInstant micros 0)
  else none

def ofEpochInt? (n : Int) : Option Moment :=
  ofEpochMicros? (if watershed < n.natAbs then n * 1000 else n * 1000000)

def ofEpochFloat? (x : Float) : Option Moment :=
  let seconds := if watershed.toFloat < x.abs then x / 1000 else x
  match scaled? seconds.floor with
  | none => none
  | some whole =>
    match scaled? ((seconds - seconds.floor) * 1000000).round with
    | none => none
    | some micros => ofEpochMicros? (whole.truncate * 1000000 + micros.truncate)

def readEpoch? (cs : List Char) : Option Moment :=
  let (negative, body) := splitSign cs
  if body.isEmpty then none
  else if body.all isDigit then
    let n : Int := digitsToNat body
    ofEpochInt? (if negative then -n else n)
  else
    let whole := body.takeWhile isDigit
    match body.dropWhile isDigit with
    | '.' :: fraction =>
      if whole.isEmpty || fraction.isEmpty || !fraction.all isDigit then none
      else (readNumeral? cs).bind fun n => ofEpochFloat? n.toFloat
    | _ => none

def readMoment? (s : String) : Option Moment :=
  (readWritten? s.toList).orElse fun _ => readEpoch? s.toList

end FieldPipeline.Calendar
