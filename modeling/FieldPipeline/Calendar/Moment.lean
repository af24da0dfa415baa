import FieldPipeline.Number.Layout

/-!
Days of the Gregorian calendar, extended to all years, and their numbers counted from the first
of January 1970; moments, which are times of a day with or without an offset from universal time;
and the spans between moments.  Moments with offsets are compared as points in time; a moment with
an offset and one without are never equal and have no order.
-/

namespace FieldPipeline.Calendar

structure Day where
  year : Int
  month : Nat
  day : Nat
  deriving DecidableEq, Repr, Inhabited

def isLeapYear (year : Int) : Bool :=
  year % 4 == 0 && (year % 100 != 0 || year % 400 == 0)

def monthLength (year : Int) (month : Nat) : Nat :=
  if month == 2 then if isLeapYear year then 29 else 28
  else if month == 4 || month == 6 || month == 9 || month == 11 then 30
  else 31

namespace Day

def isValid (d : Day) : Bool :=
  1 ≤ d.year && d.year ≤ 9999 && 1 ≤ d.month && d.month ≤ 12 && 1 ≤ d.day
    && d.day ≤ monthLength d.year d.month

def daysBeforeYear (year : Int) : Int :=
  let y := year - 1
  365 * y + Int.fdiv y 4 - Int.fdiv y 100 + Int.fdiv y 400

def daysBeforeMonth (year : Int) : Nat → Nat
  | 0 => 0
  | month + 1 => if month == 0 then 0 else daysBeforeMonth year month + monthLength year month

/-- Days from the first of January 1970. -/
def number (d : Day) : Int :=
  daysBeforeYear d.year + daysBeforeMonth d.year d.month + d.day - 1 - 719162

def inYear (year : Int) : Nat → Nat → Nat → Nat × Nat
  | 0, month, rest => (month, rest + 1)
  | steps + 1, month, rest =>
    if rest < monthLength year month then (month, rest + 1)
    else inYear year steps (month + 1) (rest - monthLength year month)

def ofNumber (n : Int) : Day :=
  let days := n + 719162
  let guess := Int.fdiv (days * 400) 146097 + 1
  let year :=
    if daysBeforeYear (guess + 1) ≤ days then guess + 1
    else if days < daysBeforeYear guess then guess - 1
    else guess
  let (month, day) := inYear year 11 1 (days - daysBeforeYear year).toNat
  ⟨year, month, day⟩

end Day

open FieldPipeline.Number (padZeros)

structure Moment where
  date : Day
  hour : Nat
  minute : Nat
  second : Nat
  micro : Nat
  /-- Seconds ahead of universal time. -/
  offset : Option Int
  deriving DecidableEq, Repr, Inhabited

/-- A length of time in microseconds. -/
structure Span where
  micros : Int
  deriving DecidableEq, Repr, Inhabited

def places (width n : Nat) : List Char :=
  padZeros width (Nat.toDigits 10 n)

namespace Day

def text (d : Day) : List Char :=
  places 4 d.year.toNat ++ '-' :: places 2 d.month ++ '-' :: places 2 d.day

end Day

namespace Moment

def wallMicros (m : Moment) : Int :=
  ((m.date.number * 24 + m.hour) * 60 + m.minute) * 60000000 + m.second * 1000000 + m.micro

/-- Microseconds from the beginning of 1970 in universal time, where no offset counts as none. -/
def instant (m : Moment) : Int :=
  m.wallMicros - m.offset.getD 0 * 1000000

def ofWallMicros (micros : Int) (offset : Option Int) : Moment :=
  let seconds := Int.fdiv micros 1000000
  let inDay := (Int.fmod seconds 86400).toNat
  { date := Day.ofNumber (Int.fdiv seconds 86400)
    hour := inDay / 3600
    minute := inDay / 60 % 60
    second := inDay % 60
    micro := (Int.fmod micros 1000000).toNat
    offset := offset }

def ofInstant (micros offset : Int) : Moment :=
  ofWallMicros (micros + offset * 1000000) (some offset)

def offsetText (seconds : Int) : List Char :=
  let size := seconds.natAbs
  let sign := if seconds < 0 then '-' else '+'
  let tail := if size % 60 == 0 then [] else ':' :: places 2 (size % 60)
  sign :: places 2 (size / 3600) ++ ':' :: places 2 (size / 60 % 60) ++ tail

def written (separator : Char) (m : Moment) : String :=
  let fraction := if m.micro == 0 then [] else '.' :: places 6 m.micro
  String.ofList (m.date.text ++ separator :: places 2 m.hour ++ ':' :: places 2 m.minute
    ++ ':' :: places 2 m.second ++ fraction ++ (m.offset.map offsetText).getD [])

def isoText (m : Moment) : String :=
  written 'T' m

/-- The order of two moments; `none` when only one of them has an offset. -/
def compare? (a b : Moment) : Option Ordering :=
  if a.offset.isSome == b.offset.isSome then some (compare a.instant b.instant) else none

def same (a b : Moment) : Bool :=
  compare? a b == some .eq

def add? (m : Moment) (s : Span) : Option Moment :=
  let moved := ofWallMicros (m.wallMicros + s.micros) m.offset
  if moved.date.isValid then some moved else none

def sub? (a b : Moment) : Option Span :=
  if a.offset.isSome == b.offset.isSome then some ⟨a.instant - b.instant⟩ else none

end Moment

namespace Span

def text (s : Span) : String :=
  let days := Int.fdiv s.micros 86400000000
  let rest := (Int.fmod s.micros 86400000000).toNat
  let seconds := rest / 1000000
  let micro := rest % 1000000
  let dayPart :=
    if days == 0 then ""
    else toString days ++ (if days.natAbs == 1 then " day, " else " days, ")
  let fraction := if micro == 0 then [] else '.' :: places 6 micro
  dayPart ++ String.ofList (Nat.toDigits 10 (seconds / 3600) ++ ':' :: places 2 (seconds / 60 % 60)
    ++ ':' :: places 2 (seconds % 60) ++ fraction)

end Span

end FieldPipeline.Calendar
