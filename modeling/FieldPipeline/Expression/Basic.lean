import FieldPipeline.Value.Basic

/-!
Expressions as trees.  The parts of the language that no expression may use are kept by the name
of the element and its inner expressions, so that what is wrong with them can be said.
-/

namespace FieldPipeline.Expression

inductive UnaryOp where
  | plus | minus | not | invert
  deriving DecidableEq, Repr

inductive BinaryOp where
  | add | sub | mul | div | floorDiv | mod | pow
  | matMult | leftShift | rightShift | bitOr | bitXor | bitAnd
  deriving DecidableEq, Repr

inductive Comparison where
  | eq | ne | lt | le | gt | ge | isIn | notIn | same | notSame
  deriving DecidableEq, Repr

inductive Expr where
  | constant (v : Value)
  | name (id : String)
  | unary (op : UnaryOp) (e : Expr)
  | binary (op : BinaryOp) (left right : Expr)
  /-- The first operand that does not hold, or else the last one. -/
  | all (operands : List Expr)
  /-- The first operand that holds, or else the last one. -/
  | any (operands : List Expr)
  | compare (first : Expr) (links : List (Comparison × Expr))
  | choice (test yes no : Expr)
  | call (function : Expr) (arguments : List Expr) (keywords : List (Option String × Expr))
  | list (items : List Expr)
  | tuple (items : List Expr)
  | set (items : List Expr)
  | dict (entries : List (Expr × Expr))
  /-- A mapping display that takes in the entries of another mapping. -/
  | merged (parts : List Expr)
  | starred (e : Expr)
  | other (element : String) (parts : List Expr)
  deriving Repr, Inhabited

mutual

def Expr.height : Expr → Nat
  | .constant _ | .name _ => 1
  | .unary _ e | .starred e => e.height + 1
  | .binary _ l r => max l.height r.height + 1
  | .all es | .any es | .list es | .tuple es | .set es | .merged es | .other _ es =>
    heightOfAll es + 1
  | .compare first links => max first.height (heightOfLinks links) + 1
  | .choice test yes no => max test.height (max yes.height no.height) + 1
  | .call f args keywords =>
    max f.height (max (heightOfAll args) (heightOfKeywords keywords + 1)) + 1
  | .dict entries => heightOfEntries entries + 1

def heightOfAll : List Expr → Nat
  | [] => 0
  | e :: es => max e.height (heightOfAll es)

def heightOfLinks : List (Comparison × Expr) → Nat
  | [] => 0
  | (_, e) :: rest => max e.height (heightOfLinks rest)

def heightOfKeywords : List (Option String × Expr) → Nat
  | [] => 0
  | (_, e) :: rest => max e.height (heightOfKeywords rest)

def heightOfEntries : List (Expr × Expr) → Nat
  | [] => 0
  | (k, v) :: rest => max k.height (max v.height (heightOfEntries rest))

end

def UnaryOp.refused? : UnaryOp → Option String
  | .invert => some "Invert"
  | _ => none

def BinaryOp.refused? : BinaryOp → Option String
  | .matMult => some "MatMult"
  | .leftShift => some "LShift"
  | .rightShift => some "RShift"
  | .bitOr => some "BitOr"
  | .bitXor => some "BitXor"
  | .bitAnd => some "BitAnd"
  | _ => none

def constantNamed? (word : String) : Option Value :=
  match word with
  | "True" => some (.bool true)
  | "False" => some (.bool false)
  | "None" => some .null
  | _ => none

/-- The name under which an expression finds the value of its own field. -/
def valueName : String := "value"

end FieldPipeline.Expression
