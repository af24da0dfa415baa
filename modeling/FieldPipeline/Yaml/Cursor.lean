import FieldPipeline.Fault

/-!
Places in the text of a document, with their lines and columns.
-/

namespace FieldPipeline.Yaml

def isBreak (c : Char) : Bool :=
  c == '\n' || c == '\x85' || c == '\u2028' || c == '\u2029'

def isGap (c : Char) : Bool :=
  c == ' ' || c == '\t'

def endsLine (c : Option Char) : Bool :=
  c.all isBreak

def endsWord (c : Option Char) : Bool :=
  c.all fun c => c == ' ' || isBreak c

def endsToken (c : Option Char) : Bool :=
  c.all fun c => isGap c || isBreak c

def isPrintable (c : Char) : Bool :=
  let n := c.toNat
  n == 9 || n == 10 || n == 13 || (32 ≤ n && n ≤ 126) || n == 0x85 || (0xA0 ≤ n && n ≤ 0xFFFD)
    || 0x10000 ≤ n

structure Cursor where
  rest : List Char
  index : Nat := 0
  line : Nat := 0
  column : Nat := 0
  deriving Repr, Inhabited

namespace Cursor

def peek (c : Cursor) : Option Char :=
  c.rest.head?

def peekAt (c : Cursor) (distance : Nat) : Option Char :=
  c.rest[distance]?

/-- The place behind the next character.  A byte order mark takes no column. -/
def forward (c : Cursor) : Cursor :=
  match c.rest with
  | [] => c
  | ch :: rest =>
    if isBreak ch then ⟨rest, c.index + 1, c.line + 1, 0⟩
    else ⟨rest, c.index + 1, c.line, if ch == '\uFEFF' then c.column else c.column + 1⟩

def skip : Nat → Cursor → Cursor
  | 0, c => c
  | n + 1, c => skip n c.forward

def span (p : Char → Bool) (c : Cursor) : List Char × Cursor :=
  let taken := c.rest.takeWhile p
  (taken, c.skip taken.length)

def skipWhile (p : Char → Bool) (c : Cursor) : Cursor :=
  (c.span p).2

def lineBreak? (c : Cursor) : Option (Char × Cursor) :=
  match c.peek with
  | some ch =>
    if isBreak ch then some (if ch == '\x85' then '\n' else ch, c.forward) else none
  | none => none

def isMarker (mark : Char) (c : Cursor) : Bool :=
  c.rest.take 3 == [mark, mark, mark] && endsToken (c.peekAt 3)

def atDocumentMarker (c : Cursor) : Bool :=
  c.isMarker '-' || c.isMarker '.'

def skipFiller (c : Cursor) : Cursor :=
  let c := c.skipWhile (· == ' ')
  if c.peek == some '#' then c.skipWhile (!isBreak ·) else c

def restOfLine (c : Cursor) : Except Fault Cursor :=
  let c := c.skipFiller
  if endsLine c.peek then .ok c.forward else .error .badYaml

end Cursor

end FieldPipeline.Yaml
