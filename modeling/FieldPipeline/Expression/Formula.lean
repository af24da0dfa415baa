import FieldPipeline.Expression.Evaluation

/-!
Formulas: texts that are read and evaluated as expressions over a record.
-/

namespace FieldPipeline.Expression

structure FormulaError where
  formula : String
  obstacle : Obstacle
  deriving DecidableEq, Repr

def FormulaError.message (e : FormulaError) : String :=
  match e.obstacle with
  | .dunderName => "dunder names are not allowed in expressions"
  | .unknownName id => "Unknown name '" ++ id ++ "' in expression"
  | .dictSpread => "Dict unpacking is not allowed"
  | .unaryOperator name => "Unary operator not allowed: " ++ name
  | .binaryOperator name => "Binary operator not allowed: " ++ name
  | .indirectCall => "Only direct function calls are allowed"
  | .function id => "Function '" ++ id ++ "' is not allowed"
  | .starredArgument => "Star-args are not allowed"
  | .keywordSplat => "Keyword splats are not allowed"
  | .element name => "Unsupported expression element: " ++ name
  | .fault f => "Failed to evaluate '" ++ e.formula ++ "': " ++ f.text

def evaluateFormula (formula : String) (scope : Record) : Except FormulaError Value :=
  match parse formula with
  | .error f => .error ⟨formula, .fault f⟩
  | .ok e => (evaluate scope e).mapError fun o => ⟨formula, o⟩

def conditionHolds (condition : String) (scope : Record) : Except FormulaError Bool :=
  (evaluateFormula condition scope).map Value.isTrue

end FieldPipeline.Expression
