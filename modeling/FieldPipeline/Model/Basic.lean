import FieldPipeline.Feature.Deletion
import FieldPipeline.Modifier.Builtin
import FieldPipeline.Preparation.Course
import FieldPipeline.Routine.Compilation

/-!
Models: an entity with its routine, whose records are kept in the store of the session.  Whatever
an operation writes, it writes within a transaction, which is undone when the operation fails.  An
interruption is no failure in this sense: it leaves the transaction as it is.
-/

namespace FieldPipeline

structure Model where
  entity : Entity
  table : ModifierTable := ModifierTable.builtin
  mergesChains : Bool := true
  equipment : Equipment := {}
  locale : Value := .null

namespace Model

def routine (m : Model) : Except Failure Routine :=
  m.entity.compile m.table m.mergesChains

def name (m : Model) : String :=
  m.entity.name

/-- Closes the transaction that the operation at hand names by then. -/
def closeTransaction (close : Store → Option Nat → Except Failure Unit × Store) : Run Unit := do
  let c ← Run.context
  Run.inStore (close · c.transaction)

/-- Does some work in the transaction of the operation at hand, or in one that is opened for it. -/
def inTransaction {α : Type} (work : Run α) : Run α := do
  match (← Run.context).transaction with
  | some _ => work
  | none => do
    let id ← Run.inStore Store.begin
    Run.setContext fun c => { c with transaction := some id }
    let result ← tryCatch work fun f => do
      unless f.isInterruption do closeTransaction Store.rollback
      throw f
    closeTransaction Store.commit
    return result

def prepared (m : Model) (mode : Mode) (before : RulePoint) : Run Record := do
  let _ ← prepare m.equipment m.entity (← Run.ofExcept m.routine) mode
  m.entity.runRules m.equipment.rules before
  return (← Run.context).latest

def create (m : Model) (data : Record) (transaction : Option Nat) : Run Record := do
  Run.setContext fun _ => { raw := data, locale := m.locale, transaction }
  inTransaction do
    let values ← m.prepared .create .beforeCreate
    Run.inStore (·.insert m.name values)

/-- The condition for the records to be changed.  A rule may have taken it away. -/
def condition (m : Model) : Run Record := do
  match (← Run.context).condition with
  | some condition => return condition
  | none =>
    if (Store.records m.name (← get).store.tables).isEmpty then Run.reject m.name (.noRecord .null)
    else Run.fail (.fault .missingPart)

/-- Changes the records that a condition identifies, or else the one that the data identify by a
unique key.  Returns the changes. -/
def update (m : Model) (data : Record) (condition : Option Record)
    (transaction : Option Nat) : Run Record := do
  Run.setContext fun _ => { raw := data, locale := m.locale, transaction, condition }
  inTransaction do
    let values ← m.prepared .update .beforeUpdate
    let condition ← m.condition
    let count ← Run.inStore (·.update m.name values condition)
    if count = 0 then Run.reject m.name (.noRecord condition.toValue)
    return values

def deletionMark? (m : Model) : Option Record :=
  (m.entity.featuresNamed Feature.logicalDeletion.name).head?.map fun u =>
    let (field, value) := Feature.Deletion.mark u.options
    [(field.plain, value)]

def delete (m : Model) (condition : Record) (transaction : Option Nat) : Run Nat := do
  if condition.isEmpty then Run.fail (.misuse (.emptyCondition m.name))
  Run.setContext fun _ => { transaction, condition := some condition }
  inTransaction do
    match m.deletionMark? with
    | some mark => Run.inStore (·.update m.name mark condition)
    | none => Run.inStore (·.delete m.name condition)

def findOne (m : Model) (condition : Record) : Run (Option Record) := do
  return (← get).store.findOne m.name condition

end Model

end FieldPipeline
