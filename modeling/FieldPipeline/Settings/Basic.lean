import FieldPipeline.Record

/-!
The settings.  A setting that is read from a file may hold any value; whoever uses it finds out
whether the value will do.
-/

namespace FieldPipeline

structure Settings where
  mergeChains : Value := .bool true
  randomTextLength : Value := .int 32
  timezone : Value := .text "utc"
  trimText : Value := .bool true
  logLevel : Value := .text "WARNING"
  deriving Repr, Inhabited

namespace Settings

def isLocal (s : Settings) : Bool :=
  s.timezone.same (.text "local")

def sections (s : Settings) : List (String × Record) := [
  ("compiler", [("merge_chains", s.mergeChains)]),
  ("runtime", [
    ("random_text_length", s.randomTextLength),
    ("timezone", s.timezone),
    ("trim_text", s.trimText)]),
  ("logging", [("level", s.logLevel)])]

def toValue (s : Settings) : Value :=
  .dict (s.sections.map fun e => (.text e.1, Record.toValue e.2))

def set? (s : Settings) (part name : String) (v : Value) : Option Settings :=
  match part, name with
  | "compiler", "merge_chains" => some { s with mergeChains := v }
  | "runtime", "random_text_length" => some { s with randomTextLength := v }
  | "runtime", "timezone" => some { s with timezone := v }
  | "runtime", "trim_text" => some { s with trimText := v }
  | "logging", "level" => some { s with logLevel := v }
  | _, _ => none

def ofSections (sections : Record) : Settings :=
  sections.foldl (fun s part =>
    ((Record.ofValue? part.2).getD []).foldl (fun s e => (s.set? part.1 e.1 e.2).getD s) s) {}

def withSection (s other : Settings) (part : String) : Settings :=
  match part with
  | "compiler" => { s with mergeChains := other.mergeChains }
  | "runtime" => { s with
    randomTextLength := other.randomTextLength
    timezone := other.timezone
    trimText := other.trimText }
  | "logging" => { s with logLevel := other.logLevel }
  | _ => s

end Settings

end FieldPipeline
