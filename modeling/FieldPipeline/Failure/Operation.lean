import FieldPipeline.Record
import FieldPipeline.Value.Text

/-!
Why an operation on a record is rejected, why it cannot be carried out as asked, and how a chain
of rules can be broken.
-/

namespace FieldPipeline

inductive RejectionCause where
  | noRecord (condition : Value)
  | readOnly (field : String)
  | writeOnce (field : String)
  | notNull (field : String)
  | wrongType (field reason : String)
  | forceUpdate (field : String)
  | required (field : String)
  | notGenerated (field reason : String)
  /-- A field must be given anew because fields it depends on change. -/
  | dependencyChanged (field : String)
  | dependencyMissing (field : String) (missing : List String)
  | checkFailed (field modifier : String)
  | modifierFailed (kind modifier field reason : String)
  | conditionFailed (condition modifier field reason : String)
  | allNull (fields : List Value)
  /-- A rejection that a rule states in words of its own. -/
  | stated (message : String)
  deriving Repr

structure Rejection where
  entity : Option String
  cause : RejectionCause
  deriving Repr

namespace Rejection

def message (r : Rejection) : String :=
  let entity := "\"" ++ r.entity.getD "" ++ "\""
  match r.cause with
  | .noRecord condition => "No " ++ entity ++ " record matches " ++ condition.plain ++ "."
  | .readOnly field =>
    "Read-only field \"" ++ field ++ "\" is not allowed to be set by manual input."
  | .writeOnce field =>
    "Write-once field \"" ++ field ++ "\" is not allowed to be updated once it was set."
  | .notNull field =>
    "The \"" ++ field ++ "\" value of " ++ entity ++ " entity cannot be null."
  | .wrongType field reason => "Invalid value for \"" ++ field ++ "\": " ++ reason
  | .forceUpdate field =>
    "\"" ++ field ++ "\" of " ++ entity ++ " entity is required for each update."
  | .required field => "\"" ++ field ++ "\" of " ++ entity ++ " entity is required."
  | .notGenerated field reason =>
    "Cannot generate a value for \"" ++ field ++ "\": " ++ reason
  | .dependencyChanged field =>
    "\"" ++ field ++ "\" is required due to change of its dependencies."
  | .dependencyMissing field missing =>
    "\"" ++ field ++ "\" depends on missing field(s): " ++ ", ".intercalate missing
  | .checkFailed field modifier => "Invalid \"" ++ field ++ "\": " ++ modifier ++ " check failed."
  | .modifierFailed kind modifier field reason =>
    kind ++ " " ++ modifier ++ " on \"" ++ field ++ "\" failed: " ++ reason
  | .conditionFailed condition modifier field reason =>
    "Condition \"" ++ condition ++ "\" of " ++ modifier ++ " on \"" ++ field ++ "\" failed: "
      ++ reason
  | .allNull fields =>
    let listed := fields.map fun f => "\"" ++ f.plain ++ "\""
    "At least one of these fields " ++ ", ".intercalate listed ++ " should not be null."
  | .stated message => message

def details (r : Rejection) : Record :=
  let entity := r.entity.toList.map fun name => ("entity", .text name)
  let on (field rule : String) : Record := [("field", .text field), ("rule", .text rule)]
  entity ++ match r.cause with
    | .noRecord _ => [("rule", .text "exists")]
    | .readOnly field => on field "read_only"
    | .writeOnce field => on field "write_once"
    | .notNull field => on field "not_null"
    | .wrongType field _ => on field "type"
    | .forceUpdate field => on field "force_update"
    | .required field => on field "required"
    | .notGenerated field _ => on field "generator"
    | .dependencyChanged field => on field "dependency"
    | .dependencyMissing field missing =>
      on field "dependency" ++ [("missing", .list (missing.map .text))]
    | .checkFailed field modifier | .modifierFailed _ modifier field _
    | .conditionFailed _ modifier field _ => on field modifier
    | .allNull fields => [("rule", .text "at_least_one_not_null"), ("fields", .list fields)]
    | .stated _ => []

end Rejection

inductive Misuse where
  | builtTwice
  | noKey (entity : String)
  | noStore (entity : String)
  | emptyCondition (entity : String)
  | transactionOpen
  | notOpen (transaction : String)
  deriving DecidableEq, Repr

namespace Misuse

def message : Misuse → String
  | .builtTwice => "EntityBuilder.build() can only be called once"
  | .noKey _ => "Primary key value(s) or at least one group of unique key value(s) is required "
      ++ "for updating an entity."
  | .noStore _ => "A record store is required to load the existing record."
  | .emptyCondition _ => "Empty condition is not allowed for deleting an entity."
  | .transactionOpen => "A transaction is already open on this store"
  | .notOpen transaction => transaction ++ " is not the open transaction"

def details : Misuse → Record
  | .noKey entity | .noStore entity | .emptyCondition entity => [("entity", .text entity)]
  | _ => []

end Misuse

inductive ChainError where
  | unknownRoute (route : String)
  | unknownPath (path : String)
  | repeatedNext (route : Option String) (position : Int)
  | droppedNext (route : Option String) (position : Int)
  deriving DecidableEq, Repr

namespace ChainError

def message : ChainError → String
  | .unknownRoute route => "Rule route \"" ++ route ++ "\" is not registered."
  | .unknownPath path => "Node with path \"" ++ path ++ "\" not found."
  | .repeatedNext _ _ => "next() called multiple times"
  | .droppedNext _ _ => "next() was called but its result was never awaited"

def details : ChainError → Record
  | .unknownRoute route | .unknownPath route => [("route", .text route)]
  | .repeatedNext route position | .droppedNext route position =>
    route.toList.map (fun r => ("route", .text r)) ++ [("position", .int position)]

def isRouting : ChainError → Bool
  | .unknownRoute _ | .unknownPath _ => true
  | _ => false

end ChainError

end FieldPipeline
