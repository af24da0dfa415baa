import FieldPipeline.Text.Table.CharacterName

/-!
Characters by their names, without regard to the case of the letters.
-/

namespace FieldPipeline.Text

def nameList (current : List Char) : List Char → List (List Char)
  | [] => []
  | ';' :: rest => current.reverse :: nameList [] rest
  | c :: rest => nameList (c :: current) rest

def NameBlock.find? (block : NameBlock) (name : List Char) : Option Char :=
  let place := (nameList [] (String.join block.rows).toList).findIdx? (· == name)
  place.map fun i => Char.ofNat (block.first + i)

def characterNamed? (name : List Char) : Option Char :=
  if name.isEmpty then none
  else
    let wanted := name.map Char.toUpper
    nameBlocks.findSome? (·.find? wanted)

end FieldPipeline.Text
