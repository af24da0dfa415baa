/-!
Why a computation on values can fail.  A fault carries no text of its own; where a message
mentions one, its label stands in angle brackets.
-/

namespace FieldPipeline

structure Issue where
  path : List String
  kind : String
  deriving DecidableEq, Repr, Inhabited

namespace Issue

def location (i : Issue) : String :=
  ".".intercalate i.path

def text (i : Issue) : String :=
  if i.path.isEmpty then i.kind else i.location ++ ":" ++ i.kind

/-- The issue as seen from a container that holds the input under `part`. -/
def within (part : String) (i : Issue) : Issue :=
  { i with path := part :: i.path }

end Issue

inductive Fault where
  /-- An operation does not apply to values of these types. -/
  | wrongType
  /-- A value of the right type that an operation cannot use. -/
  | badValue
  | missingKey
  /-- A sequence has nothing at the place that is asked for. -/
  | missingPlace
  /-- A value lacks the part that is asked for. -/
  | missingPart
  | divisionByZero
  | tooLarge
  | outOfMemory
  | tooDeep
  | badSyntax
  | badText
  | unreadable
  | badYaml
  | badJson
  /-- A decimal operation without a result. -/
  | noDecimal
  | decimalTooLarge
  | badPattern
  | badMarkup
  /-- What can be waited for once only is waited for again. -/
  | waitedTwice
  /-- An input that does not have the required shape. -/
  | malformed (issues : List Issue)
  deriving DecidableEq, Repr, Inhabited

namespace Fault

def label : Fault → String
  | .wrongType => "TypeError"
  | .badValue => "ValueError"
  | .missingKey => "KeyError"
  | .missingPlace => "IndexError"
  | .missingPart => "AttributeError"
  | .divisionByZero => "ZeroDivisionError"
  | .tooLarge => "OverflowError"
  | .outOfMemory => "MemoryError"
  | .tooDeep => "RecursionError"
  | .badSyntax => "SyntaxError"
  | .badText => "UnicodeError"
  | .unreadable => "OSError"
  | .badYaml => "YAMLError"
  | .badJson => "JSONDecodeError"
  | .noDecimal => "InvalidOperation"
  | .decimalTooLarge => "Overflow"
  | .badPattern => "error"
  | .badMarkup => "MarkupError"
  | .waitedTwice => "RuntimeError"
  | .malformed _ => "PydanticError"

def text (f : Fault) : String :=
  match f with
  | .malformed issues =>
    "<" ++ f.label ++ " " ++ ",".intercalate (issues.map Issue.text) ++ ">"
  | _ => "<" ++ f.label ++ ">"

def isValueFault : Fault → Bool
  | .badValue | .badText | .badJson | .malformed _ => true
  | _ => false

end Fault

end FieldPipeline
