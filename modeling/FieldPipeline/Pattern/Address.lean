import FieldPipeline.Pattern.Matching

/-!
The pattern of addresses: a name, an at sign and a host with a dot inside.
-/

namespace FieldPipeline.Pattern

def CharClass.only (c : Char) : CharClass where
  items := [.span c.toNat c.toNat]

def addressChar : CharClass where
  items := [.span 64 64, .sort .space false]
  negated := true

def CharClass.several (k : CharClass) : Node :=
  .repeated (.oneOf k) 1 none .greedy

def address : Node :=
  .sequence (.spot .textStart) (.sequence addressChar.several (.sequence (.oneOf (.only '@'))
    (.sequence addressChar.several (.sequence (.oneOf (.only '.'))
      (.sequence addressChar.several (.spot .lastLineEnd))))))

theorem read_address : (read "^[^@\\s]+@[^@\\s]+\\.[^@\\s]+$").toOption = some address := by
  decide +kernel

end FieldPipeline.Pattern
