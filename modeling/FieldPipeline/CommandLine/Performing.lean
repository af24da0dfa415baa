import FieldPipeline.CommandLine.Shell
import FieldPipeline.Routine.Listing
import FieldPipeline.Field.Serial

/-!
What the commands do: showing the settings and going back to the usual ones, compiling a
declaration and showing its routine, checking declarations, each file independently of the others,
and showing the values that an operation would write, without writing them.
-/

namespace FieldPipeline.CommandLine

def sectionLines (part : String × Record) : List String :=
  "" :: part.1 :: part.2.map fun e => "  " ++ e.1 ++ " = " ++ e.2.plain

def settingsLines (s : Settings) (fileName : String) : List String :=
  "" :: "fieldwright configuration" :: String.ofList (List.replicate 40 '─')
    :: s.sections.flatMap sectionLines ++ ["", "Config file: " ++ fileName]

def removeFile : Install Unit :=
  modify fun i => { i with file := none }

def configure (action : String) : Shell Unit := do
  let fileName := (← get).installation.fileName
  match action with
  | "show" => do
    let s ← Shell.settings
    if (← get).json then Shell.printDocument s.toValue
    else (settingsLines s fileName).forM Shell.say
  | "path" => Shell.say fileName
  | "reset" => do
    Shell.install removeFile
    Shell.install (Settings.use none)
    Shell.say "✓ Config reset to defaults"
  | _ => do
    Shell.say ("Unknown action: " ++ action)
    Shell.say "Valid actions: show, path, reset"
    throw (.refused 1)

def groupCount (r : Routine) : String :=
  toString r.groups.length ++ " group(s)"

def groupRows (place : Nat) (g : Group) : List (List String) :=
  let fields := ", ".intercalate (g.requiredFields.mergeSort fun a b => a ≤ b)
  g.operations.map fun o => [
    toString place, g.target, o.kind.name, ", ".intercalate o.names,
    if fields.isEmpty then "-" else fields]

def routineRows (r : Routine) : List (List String) :=
  r.groups.zipIdx.flatMap fun (g, place) => groupRows place g

def mergesChains : Shell Bool := do
  return (← Shell.settings).mergeChains.isTrue

def compile (file : Path) (unmerged : Bool) : Shell Unit := do
  let merging ← mergesChains
  let w ← get
  let e ← Shell.expect (·.complaint?) (w.entity file)
  let compiled := e.compile w.table (merging && !unmerged)
  let routine ← Shell.expect (·.complaint?) (compiled.mapError .failure)
  Shell.succeed ("Compiled " ++ e.name ++ ": " ++ groupCount routine)
  Shell.put "routine" (routine.toRecord Operation.toRecord).toValue
  let rows := routineRows routine
  if !rows.isEmpty then
    Shell.tabulate "Routine" (["Group", "Target", "Kind", "Modifiers", "Requires"] :: rows)
  Shell.finish

/-- How an obstacle in the way of a file is reported.  A missing file is named anyway. -/
def fileComplaint? (file : Path) (o : Obstacle) : Option Complaint :=
  match o with
  | .missingFile _ => o.complaint?
  | .failure _ => o.complaint?.map (·.about file.text)

def collect : List (Path × Except Obstacle Entity) → Shell (List Entity × List String)
  | [] => pure ([], [])
  | (_, .ok e) :: rest => do
    let (entities, failed) ← collect rest
    return (e :: entities, failed)
  | (file, .error o) :: rest => do
    match fileComplaint? file o, o with
    | some c, _ => Shell.complain c
    | none, .failure f => Shell.fail f
    | none, .missingFile _ => pure ()
    let (entities, failed) ← collect rest
    return (entities, file.text :: failed)

def sortedNames (names : List String) : Value :=
  textList (names.eraseDups.mergeSort fun a b => a ≤ b)

def reportOn (merging : Bool) (loaded : List (Path × Except Obstacle Entity)) : Shell Unit := do
  let (entities, failed) ← collect loaded
  match Compilation.ofEntities (← get).table merging entities with
  | .error f => Shell.fail f
  | .ok c => do
    c.errors.forM fun (name, e) => Shell.complain ((Complaint.ofDeclaration e).about name)
    c.routines.forM fun (name, routine) => Shell.succeed (name ++ ": " ++ groupCount routine)
    Shell.put "valid" (sortedNames (c.routines.map Prod.fst))
    Shell.put "invalid" (sortedNames (failed ++ c.errors.map Prod.fst))
    Shell.finish

def validate (files : List Path) : Shell Unit := do
  let merging ← mergesChains
  let w ← get
  reportOn merging (files.map fun file => (file, w.entity file))

structure Input where
  entity : Entity
  routine : Routine
  raw : Record
  existing : Option Record

def Workspace.input (w : Workspace) (merging : Bool) (file : Path) (data : String)
    (existing : Option String) : Except Obstacle Input := do
  let entity ← w.entity file
  let routine ← (entity.compile w.table merging).mapError .failure
  let raw ← w.files.record "--data" data
  let existing ← existing.mapM (w.files.record "--existing")
  return { entity, routine, raw, existing }

def unknownNames (e : Entity) (raw : Record) : List String :=
  (raw.names.filter (!e.hasField ·)).mergeSort fun a b => a ≤ b

def inSession {α : Type} (input : Input) (work : Run α) : Shell (Except Failure α × Context) := do
  let settings ← Shell.settings
  let w ← get
  let session : Session := {
    settings, sources := w.sources, readings := w.readings
    context := { raw := input.raw, existing := input.existing } }
  let (r, session) := work.run.run session
  set { w with readings := session.readings }
  return (r, session.context)

def reportValues (input : Input) (mode : Mode) (values : Record) (condition : Option Record) :
    Shell Unit := do
  let shown := values.serial.toValue
  Shell.succeed ("Materialized " ++ input.entity.name ++ " (" ++ mode.name ++ ")")
  Shell.put "values" shown
  match condition with
  | none | some [] => pure ()
  | some condition => Shell.put "where" condition.serial.toValue
  Shell.tell (Json.indented "" (← Shell.ofFault (Json.normal shown)))
  Shell.finish

def materialize (file : Path) (data : String) (mode : Mode) (existing : Option String) :
    Shell Unit := do
  let merging ← mergesChains
  let w ← get
  let input ← Shell.expect (·.inputComplaint?) (w.input merging file data existing)
  let unknown := unknownNames input.entity input.raw
  if !unknown.isEmpty then
    Shell.warn ("Ignoring unknown field(s): " ++ ", ".intercalate unknown)
  let (prepared, context) ← inSession input (prepare w.equipment input.entity input.routine mode)
  match prepared with
  | .ok values => reportValues input mode values context.condition
  | .error f =>
    match Complaint.ofFailure? f with
    | none => Shell.fail f
    | some c => do
      Shell.complain c
      Shell.finish

end FieldPipeline.CommandLine
