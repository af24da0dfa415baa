/-!
Arguments of a command line: options, some of which take a value, and other words.  An option
with a long name may have its value behind an equals sign; options with short names may share an
argument.
-/

namespace FieldPipeline.CommandLine

structure OptionForm where
  name : String
  /-- How it is written, with its hyphens. -/
  spellings : List String
  takesValue : Bool := false
  deriving DecidableEq, Repr

structure Arguments where
  /-- The options with their values, in the order in which they are given. -/
  options : List (String × String) := []
  words : List String := []
  deriving DecidableEq, Repr

namespace Arguments

/-- What a single argument says: options with their values, and the option whose value is the
next argument, if there is one. -/
structure Part where
  options : List (String × String) := []
  waiting : Option String := none

def isLong (spelling : String) : Bool :=
  match spelling.toList with
  | '-' :: '-' :: _ => true
  | _ => false

def isOption (argument : String) : Bool :=
  match argument.toList with
  | '-' :: _ :: _ => true
  | _ => false

def readShort? (forms : List OptionForm) : List Char → Option Part
  | [] => some {}
  | c :: rest =>
    match forms.find? (·.spellings.contains (String.ofList ['-', c])) with
    | none => none
    | some form =>
      if !form.takesValue then
        (readShort? forms rest).map fun part =>
          { part with options := (form.name, "") :: part.options }
      else if rest.isEmpty then some { waiting := some form.name }
      else some { options := [(form.name, String.ofList rest)] }

def readLong? (form : OptionForm) (value : Option String) : Option Part :=
  match form.takesValue, value with
  | true, some v => some { options := [(form.name, v)] }
  | true, none => some { waiting := some form.name }
  | false, none => some { options := [(form.name, "")] }
  | false, some _ => none

def readPart? (forms : List OptionForm) (argument : String) : Option Part :=
  let cs := argument.toList
  let spelling := cs.takeWhile (· != '=')
  let value := match cs.drop spelling.length with
    | _ :: value => some (String.ofList value)
    | [] => none
  let spelling := String.ofList spelling
  match forms.find? fun form => isLong spelling && form.spellings.contains spelling with
  | some form => readLong? form value
  | none => if isLong argument then none else readShort? forms (cs.drop 1)

/-- Reads arguments.  Two hyphens end the options, and so does the first word unless options and
words may be mixed. -/
def parse? (forms : List OptionForm) (mixed : Bool) : List String → Option Arguments
  | [] => some {}
  | argument :: rest =>
    if argument = "--" then some { words := rest }
    else if isOption argument then
      match readPart? forms argument with
      | none => none
      | some ⟨options, none⟩ =>
        (parse? forms mixed rest).map fun a => { a with options := options ++ a.options }
      | some ⟨options, some name⟩ =>
        match rest with
        | [] => none
        | value :: rest =>
          (parse? forms mixed rest).map fun a =>
            { a with options := options ++ (name, value) :: a.options }
    else if mixed then
      (parse? forms mixed rest).map fun a => { a with words := argument :: a.words }
    else some { words := argument :: rest }

def has (name : String) (a : Arguments) : Bool :=
  a.options.any (·.1 = name)

def value? (name : String) (a : Arguments) : Option String :=
  a.options.reverse.lookup name

end Arguments

end FieldPipeline.CommandLine
