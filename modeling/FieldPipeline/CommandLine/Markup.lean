import FieldPipeline.Fault
import FieldPipeline.Text.Blank
import FieldPipeline.Text.LetterCase

/-!
Marked-up texts.  A tag in square brackets opens a style, and a tag with a slash closes it; a
backslash in front of a bracket takes away its meaning.  What is shown is the text without tags.
-/

namespace FieldPipeline.Markup

inductive Piece where
  | text (cs : List Char)
  | opening (style : String)
  /-- The end of a style; without a name, of the one opened last. -/
  | closing (style : String)
  deriving DecidableEq, Repr

def startsTag (c : Char) : Bool :=
  ('a' ≤ c && c ≤ 'z') || c == '#' || c == '/' || c == '@'

def tag? : List Char → Option (List Char × List Char)
  | c :: rest =>
    let inner := rest.takeWhile fun d => d != ']' && d != '['
    match rest.drop inner.length with
    | ']' :: left => if startsTag c then some (c :: inner, left) else none
    | _ => none
  | [] => none

def styleName (cs : List Char) : String :=
  Text.lower (Text.strip (String.ofList cs))

def pieceOfTag (content : List Char) : Piece :=
  match content.takeWhile (· != '=') with
  | '/' :: name => .closing (styleName name)
  | name => .opening (styleName name)

/-- The pieces of a text.  Every piece uses up a character, so a fuel of the length of the text
suffices. -/
def pieces : Nat → List Char → List Piece
  | 0, _ => []
  | fuel + 1, cs =>
    let slashes := cs.takeWhile (· == '\\')
    match cs.drop slashes.length with
    | [] => [.text slashes]
    | '[' :: rest =>
      match tag? rest with
      | none => .text (slashes.drop 1 ++ ['[']) :: pieces fuel rest
      | some (content, left) =>
        let marked := if slashes.length % 2 = 0 then pieceOfTag content
          else .text ('[' :: content ++ [']'])
        .text (slashes.take (slashes.length / 2)) :: marked :: pieces fuel left
    | c :: rest => .text (slashes ++ [c]) :: pieces fuel rest

/-- What is shown of pieces, where `styles` are the open styles, the latest first.  A style that
is not open cannot be closed. -/
def shownPieces (styles : List String) : List Piece → Except Fault (List Char)
  | [] => .ok []
  | .text cs :: rest => (shownPieces styles rest).map (cs ++ ·)
  | .opening style :: rest => shownPieces (style :: styles) rest
  | .closing style :: rest =>
    if style.isEmpty then
      match styles with
      | [] => .error .badMarkup
      | _ :: styles => shownPieces styles rest
    else if styles.contains style then shownPieces (styles.erase style) rest
    else .error .badMarkup

def isHidden (c : Char) : Bool :=
  let n := c.toNat
  n == 7 || n == 8 || (11 ≤ n && n ≤ 13)

def shown (text : String) : Except Fault String :=
  let cs := text.toList
  (shownPieces [] (pieces cs.length cs)).map fun visible =>
    String.ofList (visible.filter (!isHidden ·))

end FieldPipeline.Markup
