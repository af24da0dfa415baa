import FieldPipeline.Preparation.Application
import FieldPipeline.Preparation.Filling
import FieldPipeline.Preparation.Identification

/-!
The course of a preparation: an update first finds its record; then the fields are filled, the
routine is applied, and the rules of the features check the outcome.  Nothing is written to a
store.
-/

namespace FieldPipeline

namespace Preparation

def reach (p : Progress) : Run Unit :=
  Run.setContext fun c => { c with progress := p }

def lastCheck : Mode → RulePoint
  | .create => .postCreateCheck
  | .update => .postUpdateCheck

def steps (equipment : Equipment) (e : Entity) (routine : Routine) (mode : Mode) : Run Unit := do
  if mode = .update then
    reach .resolveExisting
    identify equipment e routine
  reach .perFieldFill
  fill equipment e mode
  reach .applyRoutine
  routine.apply e
  reach .postValidation
  e.runRules equipment.rules .postDataValidation
  e.runRules equipment.rules (lastCheck mode)

end Preparation

def prepare (equipment : Equipment) (e : Entity) (routine : Routine) (mode : Mode) :
    Run Record := do
  Run.setContext fun c => { c with mode := some mode, latest := [] }
  tryCatch (Preparation.steps equipment e routine mode) fun f => do
    unless f.isInterruption do Preparation.reach .failed
    throw f
  Preparation.reach .done
  return (← Run.context).latest

end FieldPipeline
