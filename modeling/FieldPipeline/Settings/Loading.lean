import FieldPipeline.Json.Reader
import FieldPipeline.Json.Writer
import FieldPipeline.Number.Numeral
import FieldPipeline.Settings.Basic
import FieldPipeline.Settings.VariableFile
import FieldPipeline.Text.LetterCase

/-!
Where the settings come from.  A variable that is set and can be read wins over the settings
file, which wins over the usual settings.
-/

namespace FieldPipeline

structure Installation where
  fileName : String
  /-- The text of the settings file, if there is one. -/
  file : Option String := none
  environment : Variables := []
  /-- The text of the file of variables, if there is one. -/
  variableFile : Option String := none
  variableFileRead : Bool := false
  current : Option Settings := none
  warnings : List String := []
  deriving Repr, Inhabited

/-- Work on an installation.  What it changed stays changed when it fails. -/
abbrev Install (α : Type) := ExceptT Fault (StateM Installation) α

namespace Install

def warn (text : String) : Install Unit :=
  modify fun i => { i with warnings := i.warnings ++ [text] }

end Install

namespace Settings

/-- Names that belong to a section itself.  Giving them a value changes no setting. -/
def sectionNames : List String := [
  "__annotations__", "__dataclass_fields__", "__dataclass_params__", "__delattr__", "__dir__",
  "__doc__", "__eq__", "__format__", "__ge__", "__getattribute__", "__getstate__", "__gt__",
  "__hash__", "__init__", "__init_subclass__", "__le__", "__lt__", "__match_args__",
  "__module__", "__ne__", "__new__", "__reduce__", "__reduce_ex__", "__repr__", "__setattr__",
  "__sizeof__", "__str__", "__subclasshook__"]

def replaceSection (s : Settings) (part : String) (es : List (Value × Value)) : Settings :=
  es.foldl (fun s e =>
    match e.1 with
    | .text name => (s.set? part name e.2).getD s
    | _ => s) (s.withSection {} part)

def assign (part name : String) (v : Value) (s : Settings) : Install Settings :=
  match s.set? part name v, name, v with
  | some changed, _, _ => pure changed
  | none, "__class__", _ => throw .wrongType
  | none, "__weakref__", _ => throw .missingPart
  | none, "__dict__", .dict es => pure (s.replaceSection part es)
  | none, "__dict__", _ => throw .wrongType
  | none, _, _ =>
    if sectionNames.contains name then pure s
    else do
      Install.warn ("Unknown config key " ++ part ++ "." ++ name ++ ", ignoring")
      return s

def assignMembers (part : String) : List (Value × Value) → Settings → Install Settings
  | [], s => pure s
  | (name, v) :: rest, s => do assignMembers part rest (← s.assign part name.plain v)

def assignSection (data : Value) (s : Settings) (part : String) : Install Settings :=
  match data.under? part with
  | some (.dict es) => assignMembers part es s
  | _ => pure s

def applyData (s : Settings) (data : Value) : Install Settings :=
  match data with
  | .dict _ => ["compiler", "runtime", "logging"].foldlM (assignSection data) s
  | _ => throw .missingPart

/-- The settings changed by the settings file.  A file that cannot be read changes nothing. -/
def applyFile (s : Settings) : Install Settings := do
  let i ← get
  match i.file with
  | none => return s
  | some text =>
    match Json.read text with
    | .ok data => s.applyData data
    | .error .badJson => do
      Install.warn ("Failed to load config from " ++ i.fileName ++ ": " ++ Fault.badJson.text)
      return s
    | .error f => throw f

def readVariableFile : Install Unit :=
  modify fun i =>
    if i.variableFileRead then i
    else
      let environment := match i.variableFile with
        | some text => VariableFile.addTo i.environment text
        | none => i.environment
      { i with environment, variableFileRead := true }

def truthOf? (text : String) : Option Value :=
  let word := Text.lower (Text.strip text)
  if ["1", "true", "yes", "on"].contains word then some (.bool true)
  else if ["0", "false", "no", "off"].contains word then some (.bool false)
  else none

def timezoneOf? (text : String) : Option Value :=
  let word := Text.lower text
  if word = "utc" || word = "local" then some (.text word) else none

structure Override where
  source : String
  part : String
  name : String
  read? : String → Option Value

def overrides : List Override := [
  ⟨"FIELDWRIGHT_MERGE_CHAINS", "compiler", "merge_chains", truthOf?⟩,
  ⟨"FIELDWRIGHT_RANDOM_TEXT_LENGTH", "runtime", "random_text_length",
    fun text => (Number.readInt? 10 text).map .int⟩,
  ⟨"FIELDWRIGHT_TIMEZONE", "runtime", "timezone", timezoneOf?⟩,
  ⟨"FIELDWRIGHT_TRIM_TEXT", "runtime", "trim_text", truthOf?⟩,
  ⟨"FIELDWRIGHT_LOG_LEVEL", "logging", "level", fun text => some (.text (Text.upper text))⟩]

def applyOverride (s : Settings) (o : Override) : Install Settings := do
  match (← get).environment.given? o.source with
  | none => return s
  | some text =>
    match o.read? text with
    | some v => return (s.set? o.part o.name v).getD s
    | none => do
      Install.warn ("Invalid " ++ o.source ++ "=" ++ Text.quote text ++ ", ignoring")
      return s

def load : Install Settings := do
  let s ← applyFile {}
  readVariableFile
  overrides.foldlM applyOverride s

def fileText (s : Settings) : Except Fault String :=
  (Json.normal s.toValue).map (Json.indented "")

def save (s : Settings) : Install Unit := do
  let text ← s.fileText
  modify fun i => { i with file := some text }

def inUse : Install Settings := do
  match (← get).current with
  | some s => return s
  | none => do
    let s ← load
    modify fun i => { i with current := some s }
    return s

def use (s : Option Settings) : Install Unit :=
  modify fun i => { i with current := s }

end Settings

end FieldPipeline
