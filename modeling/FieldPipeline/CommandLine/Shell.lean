import FieldPipeline.CommandLine.Command
import FieldPipeline.CommandLine.Markup
import FieldPipeline.CommandLine.Report
import FieldPipeline.Model.Basic
import FieldPipeline.Settings.Loading

/-!
What commands work with and print to.  A command tells its reader about each thing as it happens,
or else prints its report as one document when it is done.
-/

namespace FieldPipeline.CommandLine

structure Workspace where
  files : Files := []
  installation : Installation
  sources : Sources
  readings : Readings := {}
  table : ModifierTable := ModifierTable.builtin
  equipment : Equipment := { hasStore := false }
  /-- The lowest rank of the messages that are logged. -/
  logRank : Nat := 30
  /-- Whether the report is printed as a document. -/
  json : Bool := false
  printed : String := ""
  report : Report := {}

inductive Stop where
  | finished
  /-- The end of a command that keeps no report. -/
  | refused (exitCode : Nat)
  | aside (a : Aside)
  | failed (f : Failure)
  deriving Repr

/-- The work of a command.  What it printed and changed stays when it stops. -/
abbrev Shell (α : Type) := ExceptT Stop (StateM Workspace) α

namespace Shell

def fail {α : Type} (f : Failure) : Shell α :=
  throw (.failed f)

def ofFault {α : Type} (r : Except Fault α) : Shell α :=
  match r with
  | .ok a => pure a
  | .error f => fail (.fault f)

def print (line : String) : Shell Unit :=
  modify fun w => { w with printed := w.printed ++ line ++ "\n" }

def say (line : String) : Shell Unit := do
  print (← ofFault (Markup.shown line))

def tell (line : String) : Shell Unit := do
  if (← get).json then pure () else say line

def report (change : Report → Report) : Shell Unit :=
  modify fun w => { w with report := change w.report }

def succeed (message : String) : Shell Unit :=
  tell ("✓ " ++ message)

def warn (message : String) : Shell Unit := do
  report fun r => { r with warnings := r.warnings ++ [message] }
  tell ("⚠ " ++ message)

def complain (c : Complaint) : Shell Unit := do
  report fun r => { r with errors := r.errors ++ [c] }
  tell ("✗ " ++ c.message)

def put (name : String) (v : Value) : Shell Unit :=
  report fun r => { r with data := r.data.put name v }

def tabulate (title : String) (rows : List (List String)) : Shell Unit := do
  if (← get).json then pure ()
  else do
    say ("TABLE " ++ title)
    rows.forM fun row => say ("\t".intercalate row)

def printDocument (v : Value) : Shell Unit := do
  print (Json.indented "" (← ofFault (Json.normal v)))

def finish : Shell Unit := do
  let w ← get
  if w.json then printDocument w.report.document.toValue

/-- The outcome of what may meet with an obstacle.  An obstacle is reported, if it can be, and
ends the command. -/
def expect {α : Type} (complaint? : Obstacle → Option Complaint) (r : Except Obstacle α) :
    Shell α := do
  match r with
  | .ok a => return a
  | .error o =>
    match complaint? o, o with
    | some c, _ => do
      complain c
      finish
      throw .finished
    | none, .failure f => fail f
    | none, .missingFile _ => fail (.fault .unreadable)

def install {α : Type} (work : Install α) : Shell α := do
  let w ← get
  let (r, installation) := work.run.run w.installation
  set { w with installation }
  ofFault r

def settings : Shell Settings :=
  install Settings.inUse

end Shell

namespace Workspace

def catalogue (w : Workspace) : Catalogue :=
  ⟨w.equipment.features, w.equipment.generators⟩

def entity (w : Workspace) (p : Path) : Except Obstacle Entity :=
  w.files.entity w.catalogue p

end Workspace

end FieldPipeline.CommandLine
