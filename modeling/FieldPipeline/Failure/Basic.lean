import FieldPipeline.Expression.Formula
import FieldPipeline.Failure.Declaration
import FieldPipeline.Failure.Operation
import FieldPipeline.Fault
import FieldPipeline.Value.Text

/-!
All ways in which an operation can fail, how each is named, and what it says.
-/

namespace FieldPipeline

/-! What is wrong with a value for a field, or with the way in which a field is to get one -/

inductive FailureKind where
  | badValue | wrongType | missingKey | formula | other
  deriving DecidableEq, Repr

inductive FieldProblem where
  | unknownType (name : String)
  | wrongLength (length : Int)
  | tooLong (length : Int)
  | notOneOf (text : String) (values : List String)
  | nothingToChoose (field : String)
  | needsText (generator type : String)
  | unknownGenerator (name : String)
  | unusableGenerator (name : String)
  deriving DecidableEq, Repr

namespace FieldProblem

def message : FieldProblem → String
  | .unknownType name => "Unknown field type \"" ++ name ++ "\""
  | .wrongLength length => "expected exactly " ++ toString length ++ " characters"
  | .tooLong length => "longer than " ++ toString length ++ " characters"
  | .notOneOf text values =>
    Text.quote text ++ " is not one of " ++ Value.writtenTexts values
  | .nothingToChoose field => "Enum field \"" ++ field ++ "\" has no values to choose from"
  | .needsText generator type =>
    "\"" ++ generator ++ "\" generator requires a text field, got \"" ++ type ++ "\""
  | .unknownGenerator name => "Unknown generator \"" ++ name ++ "\""
  | .unusableGenerator name => "Generator " ++ Text.quote name ++ " is not callable"

def kind : FieldProblem → FailureKind
  | .unknownType _ | .unknownGenerator _ => .missingKey
  | .unusableGenerator _ => .wrongType
  | _ => .badValue

end FieldProblem

/-! What is wrong with the use of a feature, or with a registration -/

inductive FeatureProblem where
  | fieldDefined (field : String)
  | neitherNameNorMapping (options : Value)
  | deletionOptions (options : Value)
  /-- A feature is to work on a field that is not there. -/
  | noSuchField (feature field : String)
  | noFieldNames
  | noTrackedField
  | notAnEnum
  | notAMapping
  | noLocalizedField
  | noLocales
  | unknownFeature (name : String)
  | featureRegistered (name : String)
  | unknownModifierKind (kind : Value)
  | unusableModifier (name : String)
  | unusableAction (action : Value)
  deriving Repr

namespace FeatureProblem

def message : FeatureProblem → String
  | .fieldDefined field => "Field \"" ++ field ++ "\" is already defined"
  | .neitherNameNorMapping options =>
    "Expected a field name or a mapping, got " ++ options.written
  | .deletionOptions options => "Invalid logical_deletion options: " ++ options.written
  | .noSuchField feature field =>
    "Field \"" ++ field ++ "\" used by " ++ feature ++ " does not exist"
  | .noFieldNames => "at_least_one_not_null requires field names"
  | .noTrackedField => "state_tracking requires a field name"
  | .notAnEnum => "Only an enum field with values can be used with state_tracking"
  | .notAMapping => "i18n options must be a mapping"
  | .noLocalizedField => "i18n requires a field name"
  | .noLocales => "i18n requires a locale -> suffix mapping"
  | .unknownFeature name => "Unknown feature \"" ++ name ++ "\""
  | .featureRegistered name => "Feature \"" ++ name ++ "\" is already registered"
  | .unknownModifierKind kind => "Unknown modifier kind: " ++ kind.written
  | .unusableModifier name => "Modifier " ++ Text.quote name ++ " is not callable"
  | .unusableAction action => "Invalid action: " ++ action.written

def kind : FeatureProblem → FailureKind
  | .unknownFeature _ => .missingKey
  | .unusableModifier _ | .unusableAction _ => .wrongType
  | _ => .badValue

end FeatureProblem

/-! All failures -/

/-- The failures that an extension may raise in words of its own. -/
inductive RaisedKind where
  | badValue | wrongType | missingKey | runtime
  deriving DecidableEq, Repr

/-- What breaks off a computation from outside.  Whatever handles failures in general lets it
through. -/
inductive Interruption where
  | cancelled | stopped | exited
  deriving DecidableEq, Repr

inductive Failure where
  | fault (f : Fault)
  | formula (e : Expression.FormulaError)
  | field (p : FieldProblem)
  | feature (p : FeatureProblem)
  | raised (kind : RaisedKind) (text : String)
  | declaration (e : DeclarationError)
  | rejected (r : Rejection)
  | misuse (m : Misuse)
  | chain (e : ChainError)
  | interrupted (i : Interruption)
  deriving Repr

def Interruption.label : Interruption → String
  | .cancelled => "CancelledError"
  | .stopped => "KeyboardInterrupt"
  | .exited => "SystemExit"

namespace RaisedKind

def label : RaisedKind → String
  | .badValue => "ValueError"
  | .wrongType => "TypeError"
  | .missingKey => "KeyError"
  | .runtime => "RuntimeError"

def kind : RaisedKind → FailureKind
  | .badValue => .badValue
  | .wrongType => .wrongType
  | .missingKey => .missingKey
  | .runtime => .other

end RaisedKind

def FailureKind.label : FailureKind → String
  | .badValue => "ValueError"
  | .wrongType => "TypeError"
  | .missingKey => "KeyError"
  | .formula => "FormulaError"
  | .other => "RuntimeError"

def Fault.kind (f : Fault) : FailureKind :=
  if f.isValueFault then .badValue
  else match f with
    | .wrongType => .wrongType
    | .missingKey => .missingKey
    | _ => .other

namespace Failure

def kind : Failure → FailureKind
  | .fault f => f.kind
  | .formula _ => .formula
  | .field p => p.kind
  | .feature p => p.kind
  | .raised kind _ => kind.kind
  | _ => .other

def label : Failure → String
  | .fault f => f.label
  | .formula _ => "FormulaError"
  | .field p => p.kind.label
  | .feature p => p.kind.label
  | .raised kind _ => kind.label
  | .declaration _ => "CompileError"
  | .rejected _ => "ValidationError"
  | .misuse _ => "UsageError"
  | .chain e => if e.isRouting then "RuleRouteError" else "RuleChainError"
  | .interrupted i => i.label

def isInterruption : Failure → Bool
  | .interrupted _ => true
  | _ => false

def message? : Failure → Option String
  | .fault _ | .interrupted _ => none
  | .formula e => some e.message
  | .field p => some p.message
  | .feature p => some p.message
  | .raised _ text => some text
  | .declaration e => some e.message
  | .rejected r => some r.message
  | .misuse m => some m.message
  | .chain e => some e.message

def details : Failure → Record
  | .declaration e => e.details
  | .rejected r => r.details
  | .misuse m => m.details
  | .chain e => e.details
  | _ => []

def toRecord (f : Failure) : Record :=
  match f with
  | .fault (.malformed issues) =>
    [("error", .text f.label),
     ("errors", .list (issues.map fun i => .list [.text i.location, .text i.kind]))]
  | .fault _ | .interrupted _ => [("error", .text f.label)]
  | _ => [("error", .text f.label), ("message", .text (f.message?.getD ""))] ++ f.details

/-- A failure as it is told inside another message.  The text of a missing key is quoted. -/
def text (f : Failure) : String :=
  match f with
  | .fault cause => cause.text
  | _ =>
    let message := f.message?.getD ""
    if f.kind = .missingKey then Text.quote message else message

def isOwn : Failure → Bool
  | .declaration _ | .rejected _ | .misuse _ | .chain _ => true
  | _ => false

end Failure

end FieldPipeline
