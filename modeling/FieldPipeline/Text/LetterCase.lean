import FieldPipeline.Text.Table.LetterCase

/-!
Lower-case and upper-case forms of texts in any script.  A capital sigma at the end of a word
has a lower-case form of its own, and some characters have an upper-case form of several
characters.
-/

namespace FieldPipeline.Text

def CaseRun.covers (run : CaseRun) (point : Nat) : Bool :=
  run.first ≤ point && point ≤ run.last && (point - run.first) % run.step == 0

def mapCase (runs : Array CaseRun) (c : Char) : Char :=
  match runs.find? (·.covers c.toNat) with
  | some run => Char.ofNat (Int.toNat (c.toNat + run.offset))
  | none => c

def lowerChar (c : Char) : Char :=
  if c.toNat < 128 then c.toLower else mapCase lowerRuns c

def upperChar (c : Char) : Char :=
  if c.toNat < 128 then c.toUpper else mapCase upperRuns c

def isCased (c : Char) : Bool :=
  casedRanges.contains c.toNat

def isCaseIgnorable (c : Char) : Bool :=
  caseIgnorableRanges.contains c.toNat

/-- A word goes on across ignorable characters when the next other character is a cased one. -/
def touchesWord (cs : List Char) : Bool :=
  match cs.dropWhile isCaseIgnorable with
  | [] => false
  | c :: _ => isCased c

/-- The lower-case form of `cs`, where `before` holds the characters passed so far, the last
one first. -/
def lowerAfter (before : List Char) : List Char → List Char
  | [] => []
  | c :: rest =>
    let image :=
      if c.toNat == 0x3A3 then
        if touchesWord before && !touchesWord rest then [Char.ofNat 0x3C2] else [Char.ofNat 0x3C3]
      else if c.toNat == 0x130 then ['i', Char.ofNat 0x307]
      else [lowerChar c]
    image ++ lowerAfter (c :: before) rest

def lower (s : String) : String :=
  String.ofList (lowerAfter [] s.toList)

def upperImage (c : Char) : List Char :=
  match longUpper.lookup c.toNat with
  | some points => points.map Char.ofNat
  | none => [upperChar c]

def upper (s : String) : String :=
  String.ofList (s.toList.flatMap upperImage)

end FieldPipeline.Text
