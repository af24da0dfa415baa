import FieldPipeline.CommandLine.Argument
import FieldPipeline.CommandLine.Files
import FieldPipeline.Session.Context

/-!
Commands, and how they are read from arguments.  The options of the program stand in front of the
name of the command, those of the command behind it.
-/

namespace FieldPipeline.CommandLine

inductive Aside where
  | help | version | misuse
  deriving DecidableEq, Repr

namespace Aside

def exitCode : Aside → Nat
  | .help | .version => 0
  | .misuse => 2

def text : Aside → String
  | .version => "fieldwright 0.1.0\n"
  | .help | .misuse => ""

def ofOption? : String → Option Aside
  | "help" => some .help
  | "version" => some .version
  | _ => none

end Aside

inductive CommandName where
  | compile | validate | materialize | config
  deriving DecidableEq, Repr

inductive Command where
  | compile (file : Path) (unmerged : Bool)
  | validate (files : List Path)
  | materialize (file : Path) (data : String) (mode : Mode) (existing : Option String)
  | config (action : String)
  deriving DecidableEq, Repr

structure Invocation where
  json : Bool := false
  verbose : Bool := false
  debug : Bool := false
  command : CommandName
  arguments : List String := []
  deriving DecidableEq, Repr

def helpOption : OptionForm :=
  { name := "help", spellings := ["--help"] }

namespace Invocation

def options : List OptionForm := [
  { name := "json", spellings := ["--json"] },
  { name := "verbose", spellings := ["--verbose", "-v"] },
  { name := "debug", spellings := ["--debug"] },
  { name := "version", spellings := ["--version"] },
  helpOption]

def aside? (a : Arguments) : Option Aside :=
  a.options.findSome? fun e => Aside.ofOption? e.1

end Invocation

namespace CommandName

def named? : String → Option CommandName
  | "compile" => some .compile
  | "validate" => some .validate
  | "materialize" => some .materialize
  | "config" => some .config
  | _ => none

def options : CommandName → List OptionForm
  | .compile => [{ name := "no-merge", spellings := ["--no-merge"] }, helpOption]
  | .materialize => [
    { name := "data", spellings := ["--data", "-d"], takesValue := true },
    { name := "mode", spellings := ["--mode", "-m"], takesValue := true },
    { name := "existing", spellings := ["--existing", "-e"], takesValue := true },
    helpOption]
  | .validate | .config => [helpOption]

def command? (name : CommandName) (a : Arguments) : Option Command :=
  match name, a.words with
  | .compile, [file] => some (.compile (Path.ofText file) (a.has "no-merge"))
  | .validate, file :: files => some (.validate ((file :: files).map Path.ofText))
  | .materialize, [file] => do
    let mode ← Mode.named? ((a.value? "mode").getD "create")
    let existing := (a.value? "existing").filter (!·.isEmpty)
    return .materialize (Path.ofText file) ((a.value? "data").getD "\x7b\x7d") mode existing
  | .config, [] => some (.config "show")
  | .config, [action] => some (.config action)
  | _, _ => none

def read (name : CommandName) (arguments : List String) : Except Aside Command :=
  match Arguments.parse? name.options true arguments with
  | none => .error .misuse
  | some a =>
    if a.has "help" then .error .help
    else match name.command? a with
      | some c => .ok c
      | none => .error .misuse

end CommandName

namespace Invocation

/-- Reads a call.  What is no name of a command may yet hold options that ask for something. -/
def read (arguments : List String) : Except Aside Invocation :=
  match Arguments.parse? options false arguments with
  | none => .error .misuse
  | some a =>
    match aside? a, a.words with
    | some aside, _ => .error aside
    | none, [] => .error .misuse
    | none, word :: rest =>
      match CommandName.named? word with
      | some command => .ok {
          json := a.has "json"
          verbose := a.has "verbose"
          debug := a.has "debug"
          command
          arguments := rest }
      | none => .error (((Arguments.parse? options false a.words).bind aside?).getD .misuse)

end Invocation

end FieldPipeline.CommandLine
