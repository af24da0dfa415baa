import FieldPipeline.Failure.Basic
import FieldPipeline.Linking.Build
import FieldPipeline.Yaml.Reader
import FieldPipeline.Json.Reader

/-!
Paths, the files that commands read, and what keeps a command from reading one.
-/

namespace FieldPipeline.CommandLine

/-- A path.  Repeated slashes and parts that stay in place say nothing and are left out. -/
structure Path where
  /-- The number of slashes at the front: none, one, or exactly two. -/
  slashes : Nat := 0
  parts : List String
  deriving DecidableEq, Repr, Inhabited

namespace Path

def ofText (text : String) : Path :=
  let cs := text.toList
  let leading := (cs.takeWhile (· == '/')).length
  let parts := (cs.splitOn '/').filter fun part => part ≠ [] && part ≠ ['.']
  { slashes := if leading ≤ 2 then leading else 1, parts := parts.map String.ofList }

def text (p : Path) : String :=
  if p.slashes = 0 && p.parts.isEmpty then "."
  else String.ofList (List.replicate p.slashes '/') ++ "/".intercalate p.parts

def isBeneath (p folder : Path) : Bool :=
  p.slashes = folder.slashes && folder.parts.isPrefixOf p.parts && p.parts ≠ folder.parts

end Path

abbrev Files := List (Path × String)

inductive Place where
  | file (text : String)
  | folder
  | nothing
  /-- Nothing, and nothing can be there, because the path leads through a file. -/
  | beneathFile
  deriving DecidableEq, Repr

inductive Obstacle where
  | missingFile (message : String)
  | failure (f : Failure)
  deriving Repr

namespace Files

def place (fs : Files) (p : Path) : Place :=
  match fs.lookup p with
  | some text => .file text
  | none =>
    if p = { parts := [] } || fs.any fun e => e.1.isBeneath p then .folder
    else if fs.any fun e => p.isBeneath e.1 then .beneathFile
    else .nothing

def read (fs : Files) (p : Path) : Except Obstacle String :=
  match fs.place p with
  | .file text => .ok text
  | .nothing => .error (.missingFile Fault.unreadable.text)
  | .folder | .beneathFile => .error (.failure (.fault .unreadable))

def declaration (text : String) : Except Fault Declaration := do
  Declaration.ofValue (← Yaml.read text)

def unreadableDeclaration (p : Path) (f : Fault) : Failure :=
  match f with
  | .badYaml | .malformed _ => .declaration ⟨none, .unreadable p.text f.text⟩
  | _ => .fault f

def entity (fs : Files) (catalogue : Catalogue) (p : Path) : Except Obstacle Entity :=
  match fs.place p with
  | .file text =>
    (do
      let d ← (declaration text).mapError (unreadableDeclaration p)
      d.link catalogue).mapError .failure
  | .folder => .error (.failure (.fault .unreadable))
  | .nothing | .beneathFile => .error (.missingFile ("File not found: " ++ p.text))

/-- The record in a text, or in a file when the text is the path of one behind an at sign; an
empty text is the empty record.  The option that the text belongs to is named in mistakes. -/
def record (fs : Files) (option text : String) : Except Obstacle Record := do
  if text.isEmpty then return []
  let content ← match text.toList with
    | '@' :: path => fs.read (Path.ofText (String.ofList path))
    | _ => .ok text
  let data ← (Json.read content).mapError fun f => .failure (.fault f)
  match data with
  | .dict _ => return (Record.ofValue? data).getD []
  | _ => throw (.failure (.raised .badValue (option ++ " must be a JSON object")))

end Files

end FieldPipeline.CommandLine
