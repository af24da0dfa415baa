import FieldPipeline.Preparation.Basic

/-!
Which record an update is about, and whether it has to be known.  The record is loaded only when
something in the update depends on its values.
-/

namespace FieldPipeline

def Record.takeKey : List String → Record → Except Fault (Record × Record)
  | [], r => .ok ([], r)
  | name :: rest, r =>
    match r.get? name with
    | none => .error .missingKey
    | some v => do
      let (taken, left) ← takeKey rest (r.erase name)
      return ((name, v) :: taken, left)

namespace Preparation

def touchesWriteOnce (e : Entity) (raw : Record) : Bool :=
  raw.names.any fun name => (e.field? name).any (·.writeOnce)

def changing (e : Entity) (raw : Record) : List String :=
  raw.names ++ (e.fields.filter fun f => f.forceUpdate && f.auto).map (·.name)

/-- Whether a group will run when some fields change. -/
def runsOn (changing : List String) (g : Group) : Bool :=
  if g.requireTarget then changing.contains g.target
  else g.requiredFields.any changing.contains

/-- Whether a group that runs depends on the record before the update: it reads a field that the
input lacks, or derives a value that is written once. -/
def dependsOnFormer (e : Entity) (raw : Record) (g : Group) : Bool :=
  !g.requiredFields.all raw.has
    || (!g.requireTarget && (e.field? g.target).any (·.writeOnce))

def featuresNeedFormer (features : List Feature) (raw : Record) :
    List FeatureUse → Except Failure Bool
  | [] => .ok false
  | u :: rest =>
    match (Feature.find? features u.name).bind (·.needsExisting) with
    | none => featuresNeedFormer features raw rest
    | some needs => do
      if ← needs u.options raw then return true
      featuresNeedFormer features raw rest

def needsFormer (features : List Feature) (e : Entity) (routine : Routine) (raw : Record) :
    Except Failure Bool :=
  if touchesWriteOnce e raw then .ok true
  else if routine.groups.any fun g => runsOn (changing e raw) g && dependsOnFormer e raw g then
    .ok true
  else featuresNeedFormer features raw e.features

/-- Makes sure that the operation has a condition for its record.  Without one, the values of a
unique key are taken out of the input. -/
def settleCondition (e : Entity) : Run Record := do
  let c ← Run.context
  match c.condition with
  | some condition => return condition
  | none =>
    match e.uniqueKeyIn? c.raw with
    | none => Run.fail (.misuse (.noKey e.name))
    | some key => do
      let (condition, raw) ← Run.ofFault (c.raw.takeKey key)
      Run.setContext fun c => { c with condition := some condition, raw }
      return condition

def loadFormer (equipment : Equipment) (e : Entity) (condition : Record) : Run Unit := do
  if !equipment.hasStore then Run.fail (.misuse (.noStore e.name))
  match (← get).store.findOne e.name condition with
  | none => Run.reject e.name (.noRecord condition.toValue)
  | some record => Run.setContext fun c => { c with existing := some record }

def identify (equipment : Equipment) (e : Entity) (routine : Routine) : Run Unit := do
  let condition ← settleCondition e
  let c ← Run.context
  if c.existing.isNone then
    if ← Run.ofExcept (needsFormer equipment.features e routine c.raw) then
      loadFormer equipment e condition

end Preparation

end FieldPipeline
