import FieldPipeline.CommandLine.Program
import FieldPipeline.Session.Seeded
import Std.Time.Zoned

/-!
The program as it runs on a machine.  It reads whatever its arguments name, runs, and prints.
-/

namespace FieldPipeline

open Std.Time

def fileText? (name : String) : IO (Option String) :=
  tryCatch (some <$> IO.FS.readFile name) fun _ => pure none

def filesNamed : List String → IO CommandLine.Files
  | [] => pure []
  | argument :: rest => do
    let name := match argument.toList with
      | '@' :: name => String.ofList name
      | name => String.ofList name
    let found := (← fileText? name).toList.map (CommandLine.Path.ofText name, ·)
    return found ++ (← filesNamed rest)

def variablesNamed : List String → IO Variables
  | [] => pure []
  | name :: rest => do
    let found := (← IO.getEnv name).toList.map (name, ·)
    return found ++ (← variablesNamed rest)

/-- The seconds by which the local zone is ahead; a machine without zones has none. -/
def localOffset (time : Timestamp) : IO Int :=
  tryCatch (do return ((← Database.defaultGetLocalZoneRules).timezoneAt time).offset.second.val)
    fun _ => pure 0

def sourcesNow : IO Sources := do
  let time ← Timestamp.now
  let seed ← IO.getRandomBytes 32
  let micros := (time.toNanosecondsSinceUnixEpoch.val / 1000).toNat
  return Sources.ofSeed micros (← localOffset time) seed.toList

def installation : IO Installation := do
  let home := (← IO.getEnv "HOME").getD ""
  let fileName := home ++ "/.config/fieldwright/config.json"
  return {
    fileName
    file := ← fileText? fileName
    environment := ← variablesNamed (Settings.overrides.map (·.source))
    variableFile := ← fileText? ".env" }

end FieldPipeline

open FieldPipeline in
def main (arguments : List String) : IO UInt32 := do
  let installation ← installation
  let files ← filesNamed arguments
  let sources ← sourcesNow
  let (answer, left) := CommandLine.run arguments { files, installation, sources }
  IO.print answer.printed
  for warning in left.installation.warnings do
    IO.eprintln warning
  if installation.file.isSome && left.installation.file.isNone then
    IO.FS.removeFile installation.fileName
  match answer.failure with
  | some f => IO.eprintln (f.label ++ ": " ++ f.message?.getD "")
  | none => pure ()
  return answer.exitCode.toUInt32
