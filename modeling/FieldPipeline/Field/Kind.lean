import FieldPipeline.Text.LetterCase

/-!
The base types of fields, each with its name and the further names it goes by.  The case of
letters does not matter.
-/

namespace FieldPipeline

inductive BaseType where
  | integer | number | text | boolean | datetime | enum | array | object
  deriving DecidableEq, Repr

namespace BaseType

def name : BaseType → String
  | .integer => "integer"
  | .number => "number"
  | .text => "text"
  | .boolean => "boolean"
  | .datetime => "datetime"
  | .enum => "enum"
  | .array => "array"
  | .object => "object"

def aliases : BaseType → List String
  | .integer => ["int"]
  | .number => ["float", "decimal", "double"]
  | .text => ["string", "char"]
  | .boolean => ["bool"]
  | .datetime => ["timestamp", "date"]
  | .enum => []
  | .array => ["list"]
  | .object => ["json", "dict"]

def catalogue : List BaseType :=
  [.integer, .number, .text, .boolean, .datetime, .enum, .array, .object]

def goesBy (t : BaseType) (word : String) : Bool :=
  t.name == word || t.aliases.contains word

def named? (name : String) : Option BaseType :=
  let word := Text.lower name
  catalogue.find? (·.goesBy word)

end BaseType

end FieldPipeline
