import FieldPipeline.Session.Basic
import FieldPipeline.Text.LetterCase

/-!
Modifiers: what can be done with the value of a field.  A validator accepts or refuses it, a
processor replaces it, and an activator derives it from elsewhere.
-/

namespace FieldPipeline

inductive ModifierKind where
  | validator | processor | activator
  deriving DecidableEq, Repr

namespace ModifierKind

def name : ModifierKind → String
  | .validator => "Validator"
  | .processor => "Processor"
  | .activator => "Activator"

def catalogue : List ModifierKind := [.validator, .processor, .activator]

def named? (name : String) : Option ModifierKind :=
  catalogue.find? fun k => Text.lower k.name == Text.lower name

end ModifierKind

structure Modifier where
  kind : ModifierKind
  name : String
  /-- What the modifier makes of its arguments and of the record around it.  The first argument
  of a validator or a processor is the value of the field. -/
  apply : List Value → Record → Run Value
  /-- The places of those arguments that are expressions. -/
  expressionArgs : List Nat := []
  description : String := ""

def Modifier.needsScope (m : Modifier) : Bool :=
  !m.expressionArgs.isEmpty

def Modifier.toRecord (m : Modifier) : Record := [
  ("kind", .text m.kind.name), ("name", .text m.name), ("description", .text m.description),
  ("needs_scope", .bool m.needsScope)]

abbrev ModifierTable := List Modifier

namespace ModifierTable

def get? (t : ModifierTable) (kind : ModifierKind) (name : String) : Option Modifier :=
  t.find? fun m => m.kind = kind ∧ m.name = name

def has (t : ModifierTable) (kind : ModifierKind) (name : String) : Bool :=
  (t.get? kind name).isSome

def names (t : ModifierTable) (kind : ModifierKind) : List String :=
  (t.filter fun m => m.kind = kind).map (·.name)

def register (m : Modifier) : ModifierTable → ModifierTable
  | [] => [m]
  | old :: rest =>
    if old.kind = m.kind ∧ old.name = m.name then m :: rest else old :: register m rest

/-- Registers what a modifier does under a kind, given by its name, and a name of its own.
What cannot be applied cannot be registered. -/
def declare (t : ModifierTable) (kind : Value) (name : String)
    (apply : Option (List Value → Record → Run Value)) (expressionArgs : List Nat)
    (description : String) : Except FeatureProblem (Modifier × ModifierTable) :=
  match ModifierKind.named? kind.plain, apply with
  | none, _ => .error (.unknownModifierKind kind)
  | some _, none => .error (.unusableModifier name)
  | some kind, some apply =>
    let m : Modifier := { kind, name, apply, expressionArgs, description }
    .ok (m, t.register m)

end ModifierTable

end FieldPipeline
