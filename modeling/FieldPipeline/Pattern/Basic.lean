import FieldPipeline.Fault
import FieldPipeline.Text.Blank
import FieldPipeline.Text.Letter
import FieldPipeline.Text.LetterCase

/-!
Patterns of texts, and which single characters the classes in them hold.
-/

namespace FieldPipeline.Pattern

open FieldPipeline.Text

structure Flags where
  ignoreCase : Bool := false
  multiLine : Bool := false
  dotAll : Bool := false
  verbose : Bool := false
  /-- Only the letters, digits and blanks of ASCII count as such. -/
  ascii : Bool := false
  deriving DecidableEq, Repr, Inhabited

inductive Family where
  | digit | word | space
  deriving DecidableEq, Repr

inductive Item where
  | span (low high : Nat)
  | sort (s : Family) (negated : Bool)
  deriving DecidableEq, Repr

structure CharClass where
  items : List Item
  negated : Bool := false
  ignoreCase : Bool := false
  ascii : Bool := false
  deriving DecidableEq, Repr

inductive Spot where
  | textStart | textEnd | lineStart | lineEnd | lastLineEnd | wordEdge (ascii : Bool)
  | insideOrOutside (ascii : Bool)
  deriving DecidableEq, Repr

inductive Greed where
  | greedy | lazy | possessive
  deriving DecidableEq, Repr

structure Width where
  least : Nat
  most : Option Nat
  deriving DecidableEq, Repr, Inhabited

inductive Node where
  | empty
  | oneOf (c : CharClass)
  | sequence (p q : Node)
  | choice (p q : Node)
  | repeated (p : Node) (least : Nat) (most : Option Nat) (greed : Greed)
  | group (number : Nat) (p : Node)
  /-- The text that a group took. -/
  | reference (number : Nat) (width : Width) (ignoreCase ascii : Bool)
  | ahead (negated : Bool) (p : Node)
  | behind (width : Nat) (negated : Bool) (p : Node)
  | atomic (p : Node)
  | ifGroup (number : Nat) (p q : Node)
  | spot (s : Spot)
  deriving DecidableEq, Repr

namespace Width

def zero : Width := ⟨0, some 0⟩

def one : Width := ⟨1, some 1⟩

def both (v w : Width) : Width :=
  ⟨v.least + w.least, do return (← v.most) + (← w.most)⟩

def either (v w : Width) : Width :=
  ⟨min v.least w.least, do return max (← v.most) (← w.most)⟩

def times (w : Width) (least : Nat) (most : Option Nat) : Width :=
  ⟨w.least * least,
    match w.most, most with
    | some 0, _ => some 0
    | some m, some n => some (m * n)
    | _, _ => none⟩

end Width

def Node.width : Node → Width
  | .empty | .ahead _ _ | .behind _ _ _ | .spot _ => .zero
  | .oneOf _ => .one
  | .sequence p q => p.width.both q.width
  | .choice p q => p.width.either q.width
  | .repeated p least most _ => p.width.times least most
  | .group _ p | .atomic p => p.width
  | .reference _ w _ _ => w
  | .ifGroup _ p q => p.width.either q.width

def Family.holds (s : Family) (ascii : Bool) (c : Char) : Bool :=
  match s with
  | .digit => if ascii then c.isDigit else (decimalDigit? c).isSome
  | .word => if ascii then c.isAlphanum || c == '_' else isWordChar c
  | .space => isBlank c && (!ascii || (9 ≤ c.toNat && c.toNat ≤ 13) || c == ' ')

/-- Small letters that differ from one another but have one capital letter. -/
def twins : List (List Nat) := [
  [0x69, 0x131], [0x73, 0x17F], [0xB5, 0x3BC], [0x345, 0x3B9, 0x1FBE], [0x390, 0x1FD3],
  [0x3B0, 0x1FE3], [0x3B2, 0x3D0], [0x3B5, 0x3F5], [0x3B8, 0x3D1], [0x3BA, 0x3F0],
  [0x3C0, 0x3D6], [0x3C1, 0x3F1], [0x3C2, 0x3C3], [0x3C6, 0x3D5], [0x432, 0x1C80],
  [0x434, 0x1C81], [0x43E, 0x1C82], [0x441, 0x1C83], [0x442, 0x1C84, 0x1C85], [0x44A, 0x1C86],
  [0x463, 0x1C87], [0x1C88, 0xA64B], [0x1E61, 0x1E9B], [0xFB05, 0xFB06]]

def alikeLetters (point : Nat) : List Nat :=
  (twins.find? (·.contains point)).getD [point]

def capitalsOf (point : Nat) : List Nat :=
  (if point == 0x69 then [0x130] else []) ++ lowerRuns.toList.filterMap fun run =>
    let source := Int.toNat (point - run.offset)
    if run.covers source then some source else none

def smallForm (ascii : Bool) (c : Char) : Char :=
  if ascii then c.toLower else if c.toNat == 0x130 then 'i' else lowerChar c

def variants (ascii : Bool) (c : Char) : List Nat :=
  if ascii then [c.toNat, c.toUpper.toNat]
  else (alikeLetters c.toNat).flatMap fun n =>
    n :: (capitalsOf n ++ [(upperChar (Char.ofNat n)).toNat])

def Item.holds (ascii : Bool) (points : List Nat) (c : Char) : Item → Bool
  | .span low high => points.any fun n => low ≤ n && n ≤ high
  | .sort s negated => s.holds ascii c != negated

def CharClass.holds (k : CharClass) (c : Char) : Bool :=
  let found :=
    if k.ignoreCase then
      let small := smallForm k.ascii c
      k.items.any (·.holds k.ascii (variants k.ascii small) small)
    else k.items.any (·.holds k.ascii [c.toNat] c)
  found != k.negated

def sameChar (ignoreCase ascii : Bool) (c d : Char) : Bool :=
  if ignoreCase then smallForm ascii c == smallForm ascii d else c == d

end FieldPipeline.Pattern
