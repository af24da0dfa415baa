import FieldPipeline.Expression.Builtin
import FieldPipeline.Field.Basic
import FieldPipeline.Session.Basic

/-!
Making values for fields that have none.  A field may name a generator; otherwise its type tells
how a value is made.
-/

namespace FieldPipeline

open FieldPipeline.Number FieldPipeline.Calendar

structure Generator where
  name : String
  generate : Field → Value → Run Value

namespace Generator

def requireText (f : Field) (generator : String) : Run Unit :=
  if f.type == "text" then pure () else Run.fail (.field (.needsText generator f.type))

def uuid : Generator where
  name := "uuid"
  generate f _ := do
    requireText f "uuid"
    return .text (← Run.identifier)

def stampText (stamp : Nat) : String :=
  String.ofList (Nat.toDigits 16 stamp)

/-- Identifiers made from the time, each later than the one before. -/
def uniqid : Generator where
  name := "uniqid"
  generate f _ := do
    requireText f "uniqid"
    let stamp ← Run.stamp
    let front := ((f.generatorOptions.get? "prefix").map Value.plain).getD ""
    return .text (front ++ stampText stamp)

def milliseconds (m : Moment) : Int :=
  let micros := m.instant
  match ofRatio? micros.natAbs 1000000 with
  | none => 0
  | some seconds =>
    match scaled? (withSign (micros < 0) seconds * 1000) with
    | some s => s.truncate
    | none => 0

def timestamp : Generator where
  name := "timestamp"
  generate f _ := do
    let m ← Run.now
    return if f.type == "datetime" then .moment m else .int (milliseconds m)

def builtin : List Generator := [uuid, uniqid, timestamp]

def find? (generators : List Generator) (name : String) : Option Generator :=
  generators.find? (·.name == name)

end Generator

namespace Field

def alphabet : String :=
  "abcdefghijklmnopqrstuvwxyzABCDEFGHIJKLMNOPQRSTUVWXYZ0123456789"

def randomChars : Nat → Run (List Char)
  | 0 => pure []
  | n + 1 => do
    let place ← Run.place alphabet.length
    let rest ← randomChars n
    return alphabet.toList.getD place 'a' :: rest

def lesser (v w : Value) : Except Fault Value := do
  let less ← Value.relate .lt w v
  return if less then w else v

def givenLength? (length : Option Int) : Option Int :=
  length.filter (· != 0)

/-- The length of a random text: the fixed one, or else the setting, but not more than the
field holds. -/
def randomLength (settings : Settings) (f : Field) : Except Fault Value :=
  match givenLength? f.fixedLength with
  | some n => .ok (.int n)
  | none =>
    let most := match givenLength? f.maxLength with
      | some n => .int n
      | none => settings.randomTextLength
    lesser most settings.randomTextLength

def randomText (f : Field) : Run Value := do
  let length ← Run.ofFault (randomLength (← Run.settings) f)
  match length.asInt? with
  | none => Run.fail (.fault .wrongType)
  | some n => do
    let cs ← randomChars n.toNat
    return .text (String.ofList cs)

def largestWhole : Int := Nat.pow 2 53 - 1

def generateOf (f : Field) (type : BaseType) : Run Value :=
  match type with
  | .integer => do return .int (← Run.wholeNumber 1 largestWhole)
  | .number => do return .float (← get).sources.fraction
  | .text => randomText f
  | .boolean => pure (.bool false)
  | .datetime => do return .moment (← Run.now)
  | .enum =>
    match f.values with
    | some (v :: _) => pure (.text v)
    | _ => Run.fail (.field (.nothingToChoose f.name))
  | .array => pure (.list [])
  | .object => pure (.dict [])

def generate (generators : List Generator) (f : Field) (locale : Value) : Run Value :=
  match f.generator.filter (!·.isEmpty) with
  | some name =>
    match Generator.find? generators name with
    | some g => g.generate f locale
    | none => Run.fail (.field (.unknownGenerator name))
  | none =>
    match BaseType.named? f.type with
    | some type => generateOf f type
    | none => Run.fail (.field (.unknownType f.type))

end Field

end FieldPipeline
