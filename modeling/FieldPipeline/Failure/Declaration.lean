import FieldPipeline.Expression.Check
import FieldPipeline.Record
import FieldPipeline.Value.Text

/-!
Why a declaration cannot be linked or compiled.
-/

namespace FieldPipeline

inductive DeclarationFault where
  | unknownFeature (feature : String)
  | repeatedFeature (feature : String)
  | badOptions (feature reason : String)
  | phaseFailed (feature phase reason : String)
  | fieldDefined (field reason : String)
  | unknownType (type field : String)
  | noEnumValues (field : String)
  | unknownGenerator (generator field : String)
  | unknownKeyFields (missing : List String)
  | unknownKind (kind modifier target : String)
  | unknownModifier (kind modifier target : String)
  | selfReference (modifier target : String)
  | noExpression (modifier target : String)
  | conditionRefused (modifier target : String)
  | badExpression (text modifier target : String) (problem : Expression.Problem)
  | unknownReferences (modifier target : String) (names : List String)
  | circular (nodes fields : List String)
  | unreadable (path reason : String)
  deriving DecidableEq, Repr

structure DeclarationError where
  entity : Option String
  fault : DeclarationFault
  deriving DecidableEq, Repr

def textList (items : List String) : Value :=
  .list (items.map .text)

namespace DeclarationError

def message (e : DeclarationError) : String :=
  match e.fault with
  | .unknownFeature feature => "Unknown feature \"" ++ feature ++ "\""
  | .repeatedFeature feature => "Feature \"" ++ feature ++ "\" may only be used once"
  | .badOptions feature reason =>
    "Invalid options for feature \"" ++ feature ++ "\": " ++ reason
  | .phaseFailed feature phase reason =>
    "Feature \"" ++ feature ++ "\" failed during " ++ phase ++ ": " ++ reason
  | .fieldDefined _ reason => reason
  | .unknownType type field => "Unknown type \"" ++ type ++ "\" for field \"" ++ field ++ "\""
  | .noEnumValues field => "Enum field \"" ++ field ++ "\" declares no values"
  | .unknownGenerator generator field =>
    "Unknown generator \"" ++ generator ++ "\" for field \"" ++ field ++ "\""
  | .unknownKeyFields missing =>
    "Key references unknown field(s): " ++ ", ".intercalate missing
  | .unknownKind kind _ target =>
    "unsupported modifier kind \"" ++ kind ++ "\" on field \"" ++ target ++ "\""
  | .unknownModifier kind modifier target =>
    "unsupported modifier " ++ kind ++ " \"" ++ modifier ++ "\" on field \"" ++ target ++ "\""
  | .selfReference modifier target =>
    "modifier \"" ++ modifier ++ "\" on \"" ++ target ++ "\" references itself"
  | .noExpression modifier _ => "modifier \"" ++ modifier ++ "\" expects an expression argument"
  | .conditionRefused modifier _ =>
    "\"when\" is only supported on activators, not \"" ++ modifier ++ "\""
  | .badExpression text _ target problem =>
    "invalid expression \"" ++ text ++ "\" on \"" ++ target ++ "\": " ++ problem.message
  | .unknownReferences modifier target names =>
    "modifier \"" ++ modifier ++ "\" on \"" ++ target ++ "\" references unknown field(s): "
      ++ ", ".intercalate names
  | .circular _ fields =>
    "Circular modifier dependency in entity \"" ++ e.entity.getD "" ++ "\" between fields: "
      ++ ", ".intercalate fields
  | .unreadable path reason => "Invalid declaration in " ++ path ++ ": " ++ reason

def details (e : DeclarationError) : Record :=
  let entity := e.entity.toList.map fun name => ("entity", .text name)
  let onField (modifier target : String) : Record :=
    [("fields", textList [target]), ("modifier", .text modifier)]
  entity ++ match e.fault with
    | .unknownFeature feature | .repeatedFeature feature | .badOptions feature _
    | .phaseFailed feature _ _ => [("feature", .text feature)]
    | .fieldDefined field _ | .unknownType _ field | .noEnumValues field
    | .unknownGenerator _ field => [("fields", textList [field])]
    | .unknownKeyFields missing => [("fields", textList missing)]
    | .unknownKind _ modifier target | .unknownModifier _ modifier target
    | .selfReference modifier target | .noExpression modifier target
    | .conditionRefused modifier target | .badExpression _ modifier target _ =>
      onField modifier target
    | .unknownReferences modifier _ names =>
      [("fields", textList names), ("modifier", .text modifier)]
    | .circular nodes fields => [("nodes", textList nodes), ("fields", textList fields)]
    | .unreadable _ _ => []

end DeclarationError

end FieldPipeline
