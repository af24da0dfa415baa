import FieldPipeline.Expression.Formula
import FieldPipeline.Preparation.Basic

/-!
Applying a routine to the values of an operation.
-/

namespace FieldPipeline

inductive Verdict where
  | run
  | skip
  /-- The target must be given anew because fields it depends on change. -/
  | demandTarget
  deriving DecidableEq, Repr

/-- Whether a group is to run.  Validators and processors need a value of their target, and want
one when an update changes what it depends on.  An activator yields to a value that is there. -/
def Group.verdict (e : Entity) (c : Context) (g : Group) : Verdict :=
  let changed := g.requiredFields.any c.latest.has
  let updating := c.mode = some .update
  if g.requireTarget then
    match c.latest.get? g.target with
    | some v => if v.isNull then .skip else .run
    | none => if updating && changed then .demandTarget else .skip
  else if c.latest.has g.target then .skip
  else if updating then
    if (e.field? g.target).any (·.writeOnce) && !(c.former g.target).isNull then .skip
    else if changed then .run else .skip
  else .run

def Group.missing (c : Context) (g : Group) : List String :=
  g.requiredFields.filter fun name => (c.lookUp? name).isNone

namespace Call

def argsIn (scope : Record) (c : Call) : List Value :=
  c.args.map fun
    | .fieldRef name => scope.getOrNull name
    | v => v

def retell (entity target : String) (c : Call) (f : Failure) : Failure :=
  match f.kind with
  | .formula | .wrongType | .badValue =>
    .rejected ⟨some entity, .modifierFailed c.modifier.kind.name c.modifier.name target f.text⟩
  | _ => f

def invoke (entity target : String) (scope : Record) (values : List Value) (c : Call) :
    Run Value :=
  (c.modifier.apply (values ++ c.argsIn scope) scope).explain (c.retell entity target)

/-- Whether an activator applies. -/
def applies (entity target : String) (scope : Record) (c : Call) : Except Failure Bool :=
  match c.condition with
  | none => .ok true
  | some condition =>
    (Expression.conditionHolds condition scope).mapError fun e =>
      .rejected ⟨some entity,
        .conditionFailed condition c.modifier.name target (Failure.formula e).text⟩

end Call

namespace Operation

def validate (entity target : String) (scope : Record) (v : Value) : List Call → Run Unit
  | [] => pure ()
  | c :: rest => do
    let accepted ← c.invoke entity target scope [v]
    if accepted.isTrue then validate entity target scope v rest
    else Run.reject entity (.checkFailed target c.modifier.name)

/-- Each call works on the result of the one before it, and sees it in the record. -/
def process (entity target : String) : Record → Value → List Call → Run Value
  | _, v, [] => pure v
  | scope, v, c :: rest => do
    let result ← c.invoke entity target scope [v]
    process entity target (scope.put target result) result rest

def derive? (entity target : String) (scope : Record) : List Call → Run (Option Value)
  | [] => pure none
  | c :: rest => do
    if ← Run.ofExcept (c.applies entity target scope) then
      return some (← c.invoke entity target scope [])
    else derive? entity target scope rest

/-- Makes calls of one kind on a field.  Of activators the last one that applies counts. -/
def runCalls (entity target : String) (kind : ModifierKind) (calls : List Call) : Run Unit := do
  let c ← Run.context
  let v := c.latest.getOrNull target
  match kind with
  | .validator => validate entity target c.scope v calls
  | .processor => do
    Run.setLatest target (← process entity target c.scope v calls)
  | .activator => do
    match ← derive? entity target c.scope calls.reverse with
    | some v => Run.setLatest target v
    | none => pure ()

end Operation

def Group.apply (e : Entity) (g : Group) : Run Unit := do
  let c ← Run.context
  match g.verdict e c with
  | .skip => pure ()
  | .demandTarget => Run.reject e.name (.dependencyChanged g.target)
  | .run =>
    match g.missing c with
    | [] => g.operations.forM fun o => Operation.runCalls e.name g.target o.kind o.calls
    | missing => Run.reject e.name (.dependencyMissing g.target missing)

def Routine.apply (e : Entity) (r : Routine) : Run Unit :=
  r.groups.forM (Group.apply e)

end FieldPipeline
