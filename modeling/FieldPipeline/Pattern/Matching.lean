import FieldPipeline.Pattern.Reader

/-!
Matching patterns.  Alternatives are tried from left to right, and a repetition takes as much or
as little as it can; what follows decides whether an attempt stands.
-/

namespace FieldPipeline.Pattern

structure Cursor where
  /-- The characters in front of the place, the nearest one first. -/
  before : List Char
  after : List Char
  place : Nat
  taken : List (Nat × List Char)

/-- What follows a match, told where the match ends. -/
abbrev Next := Cursor → Option Cursor

namespace Cursor

def advance (c : Cursor) : Option (Char × Cursor) :=
  match c.after with
  | [] => none
  | x :: rest => some (x, { c with before := x :: c.before, after := rest, place := c.place + 1 })

def back (c : Cursor) : Nat → Option Cursor
  | 0 => some c
  | n + 1 =>
    match c.before with
    | [] => none
    | x :: rest => back { c with before := rest, after := x :: c.after, place := c.place - 1 } n

def isWordAt (ascii : Bool) (side : List Char) : Bool :=
  side.head?.any (Family.word.holds ascii)

def atEdge (ascii : Bool) (c : Cursor) : Bool :=
  isWordAt ascii c.before != isWordAt ascii c.after

def isVoid (c : Cursor) : Bool :=
  c.before.isEmpty && c.after.isEmpty

def isAt (c : Cursor) : Spot → Bool
  | .textStart => c.before.isEmpty
  | .textEnd => c.after.isEmpty
  | .lineStart => c.before.head?.all (· == '\n')
  | .lineEnd => c.after.head?.all (· == '\n')
  | .lastLineEnd => c.after.isEmpty || c.after == ['\n']
  | .wordEdge ascii => !c.isVoid && c.atEdge ascii
  | .insideOrOutside ascii => !c.isVoid && !c.atEdge ascii

def follow (same : Char → Char → Bool) (c : Cursor) : List Char → Option Cursor
  | [] => some c
  | x :: rest =>
    match c.advance with
    | some (y, next) => if same x y then follow same next rest else none
    | none => none

end Cursor

/-- Repeats a match.  A repetition that takes nothing is the last one. -/
def iterate (body : Next → Next) (least : Nat) (most : Option Nat) (lazily : Bool) :
    Nat → Nat → Option Nat → Next → Next
  | 0, _, _, next, c => next c
  | fuel + 1, count, last, next, c =>
    let again (last : Option Nat) : Next :=
      body (iterate body least most lazily fuel (count + 1) last next)
    let ended := most.any (· ≤ count) || last == some c.place
    if count < least then again last c
    else if lazily then
      (next c).orElse fun _ => if ended then none else again (some c.place) c
    else
      (if ended then none else again (some c.place) c).orElse fun _ => next c

/-- Repeats a match as often as possible, without taking anything back. -/
def exhaust (body : Next → Next) (least : Nat) (most : Option Nat) : Nat → Nat → Next
  | 0, _, c => some c
  | fuel + 1, count, c =>
    if most.any (· ≤ count) then some c
    else
      match body some c with
      | some d =>
        if least ≤ count && d.place == c.place then some d
        else exhaust body least most fuel (count + 1) d
      | none => if count < least then none else some c

def Node.run : Node → Next → Next
  | .empty, next, c => next c
  | .oneOf k, next, c =>
    match c.advance with
    | some (x, d) => if k.holds x then next d else none
    | none => none
  | .sequence p q, next, c => p.run (q.run next) c
  | .choice p q, next, c => (p.run next c).orElse fun _ => q.run next c
  | .repeated p least most .possessive, next, c =>
    (exhaust p.run least most (least + c.after.length + 2) 0 c).bind next
  | .repeated p least most greed, next, c =>
    iterate p.run least most (greed == .lazy) (least + c.after.length + 2) 0 none next c
  | .group number p, next, c =>
    p.run (fun d =>
      next { d with taken := (number, c.after.take (d.place - c.place)) :: d.taken }) c
  | .reference number _ ignoreCase ascii, next, c =>
    match c.taken.lookup number with
    | some text => (c.follow (sameChar ignoreCase ascii) text).bind next
    | none => none
  | .ahead negated p, next, c =>
    match p.run some c with
    | some d => if negated then none else next { c with taken := d.taken }
    | none => if negated then next c else none
  | .behind width negated p, next, c =>
    match (c.back width).bind (p.run some) with
    | some d => if negated then none else next { c with taken := d.taken }
    | none => if negated then next c else none
  | .atomic p, next, c => (p.run some c).bind next
  | .ifGroup number p q, next, c =>
    if (c.taken.lookup number).isSome then p.run next c else q.run next c
  | .spot s, next, c => if c.isAt s then next c else none

def Node.foundFrom (p : Node) (before : List Char) (place : Nat) : List Char → Bool
  | [] => (p.run some ⟨before, [], place, []⟩).isSome
  | c :: rest =>
    (p.run some ⟨before, c :: rest, place, []⟩).isSome || foundFrom p (c :: before) (place + 1) rest

def Node.occursIn (p : Node) (s : String) : Bool :=
  p.foundFrom [] 0 s.toList

end FieldPipeline.Pattern
