import FieldPipeline.CommandLine.Files

/-!
What a command reports: warnings, errors and data, and the exit code that follows from them.
-/

namespace FieldPipeline.CommandLine

inductive ErrorKind where
  | rejected | undeclared | missingFile | misuse
  deriving DecidableEq, Repr

def ErrorKind.exitCode : ErrorKind → Nat
  | .rejected => 1
  | .undeclared => 2
  | .missingFile => 3
  | .misuse => 4

structure Complaint where
  kind : ErrorKind
  message : String
  details : Record := []

namespace Complaint

def ofDeclaration (e : DeclarationError) : Complaint :=
  ⟨.undeclared, e.message, e.details⟩

def about (name : String) (c : Complaint) : Complaint :=
  { c with message := name ++ ": " ++ c.message }

def toRecord (c : Complaint) : Record :=
  ("message", .text c.message) :: c.details

/-- How a failed preparation is reported; `none` when it ends the program. -/
def ofFailure? (f : Failure) : Option Complaint :=
  let message := f.message?.getD ""
  match f with
  | .rejected _ => some ⟨.rejected, message, f.details⟩
  | _ => if f.isOwn then some ⟨.misuse, message, f.details⟩ else none

end Complaint

def Obstacle.complaint? : Obstacle → Option Complaint
  | .missingFile message => some { kind := .missingFile, message }
  | .failure (.declaration e) => some (.ofDeclaration e)
  | .failure _ => none

def Obstacle.inputComplaint? (o : Obstacle) : Option Complaint :=
  match o.complaint?, o with
  | some c, _ => some c
  | none, .failure f =>
    if f.kind = .badValue then some { kind := .misuse, message := "Invalid input: " ++ f.text }
    else none
  | none, .missingFile _ => none

structure Report where
  warnings : List String := []
  errors : List Complaint := []
  data : Record := []

namespace Report

def exitCode (r : Report) : Nat :=
  (r.errors.getLast?.map (·.kind.exitCode)).getD 0

def status (r : Report) : String :=
  if r.errors.isEmpty then "success" else "error"

def document (r : Report) : Record := [
  ("status", .text r.status),
  ("warnings", .list (r.warnings.map fun message => Record.toValue [("message", .text message)])),
  ("errors", .list (r.errors.map fun c => c.toRecord.toValue))]
  ++ r.data ++ [("exit_code", .int r.exitCode)]

end Report

end FieldPipeline.CommandLine
