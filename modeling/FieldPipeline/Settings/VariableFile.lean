import FieldPipeline.Text.Blank

/-!
Files of variables, one `NAME=value` a line.  A value may be quoted; quoted values may run over
several lines and hold escapes.  A value may refer to other variables.
-/

namespace FieldPipeline

abbrev Variables := List (String × String)

namespace Variables

def set (name value : String) : Variables → Variables
  | [] => [(name, value)]
  | (key, old) :: rest =>
    if key = name then (key, value) :: rest else (key, old) :: set name value rest

def unset (name : String) (vars : Variables) : Variables :=
  vars.filter fun e => e.1 ≠ name

def given? (name : String) (vars : Variables) : Option String :=
  (vars.lookup name).filter (!·.isEmpty)

end Variables

namespace VariableFile

open FieldPipeline.Text

abbrev Binding := String × Option String

def isLineEnd (c : Char) : Bool :=
  c == '\n' || c == '\r'

def isGap (c : Char) : Bool :=
  isBlank c && !isLineEnd c

def skipGap (cs : List Char) : List Char :=
  cs.dropWhile isGap

def nextLine (cs : List Char) : List Char :=
  (cs.dropWhile (!isLineEnd ·)).drop 1

def skipExport (cs : List Char) : List Char :=
  match cs with
  | 'e' :: 'x' :: 'p' :: 'o' :: 'r' :: 't' :: c :: rest => if isGap c then skipGap rest else cs
  | _ => cs

def readName? (cs : List Char) : Option (String × List Char) :=
  match cs with
  | '\'' :: rest =>
    let name := rest.takeWhile (· != '\'')
    match rest.drop name.length with
    | '\'' :: rest => if name.isEmpty then none else some (String.ofList name, rest)
    | _ => none
  | _ =>
    let isPart (c : Char) : Bool := !isBlank c && c != '=' && c != '#'
    let name := cs.takeWhile isPart
    if name.isEmpty then none else some (String.ofList name, cs.drop name.length)

def upToQuote? (mark : Char) : List Char → Option (List Char × List Char)
  | [] => none
  | '\\' :: c :: rest =>
    if c == mark then (upToQuote? mark rest).map fun (s, left) => ('\\' :: c :: s, left)
    else (upToQuote? mark (c :: rest)).map fun (s, left) => ('\\' :: s, left)
  | c :: rest =>
    if c == mark then some ([], rest)
    else (upToQuote? mark rest).map fun (s, left) => (c :: s, left)

def upToLastEscape? (mark : Char) (cs : List Char) : Option (List Char × List Char) :=
  match cs.reverse.span (· != mark) with
  | (tail, _ :: before) => if before.isEmpty then none else some (before.reverse, tail.reverse)
  | _ => none

/-- A quoted text, read behind its opening mark.  When no mark closes it, the last one that a
backslash precedes does. -/
def readQuoted? (mark : Char) (cs : List Char) : Option (List Char × List Char) :=
  match upToQuote? mark cs with
  | some found => some found
  | none => upToLastEscape? mark cs

def escaped? (mark c : Char) : Option Char :=
  if c == '\\' || c == '\'' then some c
  else if mark == '\'' then none
  else match c with
    | '"' => some '"'
    | 'a' => some '\x07'
    | 'b' => some '\x08'
    | 'f' => some '\x0c'
    | 'n' => some '\n'
    | 'r' => some '\r'
    | 't' => some '\t'
    | 'v' => some '\x0b'
    | _ => none

def unescape (mark : Char) : List Char → List Char
  | '\\' :: c :: rest =>
    match escaped? mark c with
    | some e => e :: unescape mark rest
    | none => '\\' :: unescape mark (c :: rest)
  | c :: rest => c :: unescape mark rest
  | [] => []

def withoutComment : List Char → List Char
  | [] => []
  | c :: rest =>
    if isBlank c && (rest.dropWhile isBlank).head? == some '#' then []
    else c :: withoutComment rest

def readPlain (cs : List Char) : String × List Char :=
  let line := cs.takeWhile (!isLineEnd ·)
  let value := ((withoutComment line).reverse.dropWhile isBlank).reverse
  (String.ofList value, cs.drop line.length)

def readValue? (cs : List Char) : Option (String × List Char) :=
  match cs with
  | '\'' :: rest =>
    (readQuoted? '\'' rest).map fun (s, left) => (String.ofList (unescape '\'' s), left)
  | '"' :: rest =>
    (readQuoted? '"' rest).map fun (s, left) => (String.ofList (unescape '"' s), left)
  | _ => some (readPlain cs)

def skipComment (cs : List Char) : List Char :=
  match skipGap cs with
  | '#' :: rest => rest.dropWhile (!isLineEnd ·)
  | _ => cs

def lineEnd? (cs : List Char) : Option (List Char) :=
  match skipGap (skipComment cs) with
  | [] => some []
  | c :: rest => if isLineEnd c then some rest else none

/-- The binding at the start of a text, and the rest behind its line.  A line that cannot be read
binds nothing. -/
def readBinding (cs : List Char) : Option Binding × List Char :=
  let cs := skipExport cs
  if cs.head? == some '#' then
    match lineEnd? cs with
    | some rest => (none, rest)
    | none => (none, nextLine cs)
  else match readName? cs with
    | none => (none, nextLine cs)
    | some (name, cs) =>
      let cs := skipGap cs
      match cs with
      | '=' :: rest =>
        let rest := skipGap rest
        match readValue? rest with
        | none => (none, nextLine rest)
        | some (value, rest) => closing (name, some value) rest
      | _ => closing (name, none) cs
where
  closing (b : Binding) (cs : List Char) : Option Binding × List Char :=
    match lineEnd? cs with
    | some rest => (some b, rest)
    | none => (none, nextLine (skipComment cs))

/-- The bindings of a text.  Every one uses up a character, so a fuel of the length of the text
suffices. -/
def readBindings : Nat → List Char → List Binding
  | 0, _ => []
  | fuel + 1, cs =>
    match cs.dropWhile isBlank with
    | [] => []
    | cs =>
      let (b, rest) := readBinding cs
      b.toList ++ readBindings fuel rest

def read (text : String) : List Binding :=
  let cs := unifyLineEnds text.toList
  readBindings cs.length cs

/-- A reference to a variable at the start of a text, behind the dollar sign: the name, the value
for a variable that is not set, and the rest. -/
def readReference? (cs : List Char) : Option (String × String × List Char) :=
  match cs with
  | '\x7b' :: rest =>
    let name := rest.takeWhile fun c => c != '\x7d' && c != ':'
    match rest.drop name.length with
    | '\x7d' :: rest => some (String.ofList name, "", rest)
    | ':' :: '-' :: rest =>
      let fallback := rest.takeWhile (· != '\x7d')
      match rest.drop fallback.length with
      | _ :: rest => some (String.ofList name, String.ofList fallback, rest)
      | [] => none
    | _ => none
  | _ => none

def expand (valueOf : String → Option String) : Nat → List Char → List Char
  | 0, cs => cs
  | _ + 1, [] => []
  | fuel + 1, c :: rest =>
    match if c == '$' then readReference? rest else none with
    | some (name, fallback, rest) =>
      ((valueOf name).getD fallback).toList ++ expand valueOf fuel rest
    | none => c :: expand valueOf fuel rest

/-- What a name means to the values behind it: a variable that is set, or else what the file has
said.  A name without a value counts as empty. -/
def meaning (vars : Variables) (before : List Binding) (name : String) : Option String :=
  match vars.lookup name with
  | some v => some v
  | none => (before.lookup name).map (·.getD "")

def resolve (vars : Variables) : List Binding → List Binding → List Binding
  | before, [] => before
  | before, (name, value) :: rest =>
    let value := value.map fun v =>
      let cs := v.toList
      String.ofList (expand (meaning vars before) (cs.length + 1) cs)
    resolve vars ((name, value) :: before.filter (·.1 ≠ name)) rest

def addTo (vars : Variables) (text : String) : Variables :=
  (resolve vars [] (read text)).foldl (fun acc b =>
    match b.2 with
    | some v => if (vars.lookup b.1).isSome then acc else acc.set b.1 v
    | none => acc) vars

end VariableFile

end FieldPipeline
