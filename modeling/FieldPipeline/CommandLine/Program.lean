import FieldPipeline.CommandLine.Command
import FieldPipeline.Settings.Basic
import FieldPipeline.CommandLine.Performing

/-!
The program: it reads its arguments, sets up what is logged, and carries out a command.
-/

namespace FieldPipeline.CommandLine

def rankNamed? : String → Option Nat
  | "NOTSET" => some 0
  | "DEBUG" => some 10
  | "INFO" => some 20
  | "WARNING" | "WARN" => some 30
  | "ERROR" => some 40
  | "CRITICAL" | "FATAL" => some 50
  | _ => none

/-- The rank in the settings.  What names no rank counts as the rank of warnings. -/
def settingsRank (s : Settings) : Except Fault Nat :=
  match s.logLevel with
  | .text name => .ok ((rankNamed? name).getD 30)
  | v => if v.isHashable then .ok 30 else .error .wrongType

/-- The rank for a call: with a document to print only errors are logged, and the options of the
call go before all else. -/
def Invocation.rank (i : Invocation) (usual : Nat) : Nat :=
  if i.debug then 10
  else if i.verbose then 20
  else if i.json then max usual 40
  else usual

structure Answer where
  exitCode : Nat
  printed : String
  /-- The failure that ended the program, if one did. -/
  failure : Option Failure := none
  deriving Repr

def perform : Command → Shell Unit
  | .compile file unmerged => compile file unmerged
  | .validate files => validate files
  | .materialize file data mode existing => materialize file data mode existing
  | .config action => configure action

def call (i : Invocation) : Shell Unit := do
  let usual ← Shell.ofFault (settingsRank (← Shell.settings))
  modify fun w => { w with json := i.json, logRank := i.rank usual }
  match i.command.read i.arguments with
  | .ok c => perform c
  | .error aside => throw (.aside aside)

def work (arguments : List String) : Shell Unit :=
  match Invocation.read arguments with
  | .ok i => call i
  | .error aside => throw (.aside aside)

def answer (w : Workspace) : Except Stop Unit → Answer
  | .ok _ | .error .finished => { exitCode := w.report.exitCode, printed := w.printed }
  | .error (.refused exitCode) => { exitCode, printed := w.printed }
  | .error (.aside a) => { exitCode := a.exitCode, printed := w.printed ++ a.text }
  | .error (.failed f) => { exitCode := 1, printed := w.printed, failure := some f }

def run (arguments : List String) (w : Workspace) : Answer × Workspace :=
  let (r, w) := (work arguments).run.run { w with printed := "", report := {}, json := false }
  (answer w r, w)

end FieldPipeline.CommandLine
