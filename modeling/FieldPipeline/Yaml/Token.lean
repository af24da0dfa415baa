import FieldPipeline.Yaml.Cursor

/-!
The tokens of a document, and those of them that are words of their own: directives, anchors and
tags.
-/

namespace FieldPipeline.Yaml

inductive Token where
  | blockSequence | blockMapping | blockEnd
  | flowSequence | flowSequenceEnd | flowMapping | flowMappingEnd
  | blockEntry | flowEntry
  | key | value
  | documentStart | documentEnd
  | version (major : Nat)
  /-- A short form for the beginnings of tags. -/
  | shorthand (name beginning : String)
  /-- A directive that means nothing. -/
  | ignored
  | alias (name : String)
  | anchor (name : String)
  | tag (handle : Option String) (suffix : String)
  | scalar (isPlain : Bool) (text : String)
  deriving DecidableEq, Repr

namespace Token

def isDigit (c : Char) : Bool :=
  '0' ≤ c && c ≤ '9'

def isNamePart (c : Char) : Bool :=
  isDigit c || ('A' ≤ c && c ≤ 'Z') || ('a' ≤ c && c ≤ 'z') || c == '-' || c == '_'

def name (c : Cursor) : Except Fault (String × Cursor) :=
  match c.span isNamePart with
  | ([], _) => .error .badYaml
  | (cs, c) => .ok (String.ofList cs, c)

def endsAnchor (c : Option Char) : Bool :=
  endsToken c || c.any ['?', ':', ',', ']', '\x7d', '%', '@', '`'].contains

def anchorName (c : Cursor) : Except Fault (String × Cursor) := do
  let (name, c) ← name c.forward
  if endsAnchor c.peek then return (name, c) else .error .badYaml

def octet? (a b : Char) : Option Nat := do
  let digit (c : Char) : Option Nat :=
    if isDigit c then some (c.toNat - 48)
    else if 'a' ≤ c && c ≤ 'f' then some (c.toNat - 87)
    else if 'A' ≤ c && c ≤ 'F' then some (c.toNat - 55)
    else none
  return (← digit a) * 16 + (← digit b)

def octets : List Char → Except Fault (List UInt8 × List Char)
  | '%' :: a :: b :: rest =>
    match octet? a b with
    | none => .error .badYaml
    | some n => do
      let (more, left) ← octets rest
      return (UInt8.ofNat n :: more, left)
  | '%' :: _ => .error .badYaml
  | cs => .ok ([], cs)

def isUriPart (c : Char) : Bool :=
  isNamePart c || ";/?:@&=+$,_.!~*'()[]".toList.contains c

def uriCharacters : Nat → List Char → Except Fault (List Char)
  | 0, _ => .ok []
  | _ + 1, [] => .ok []
  | fuel + 1, c :: rest =>
    if c == '%' then do
      let (bytes, left) ← octets (c :: rest)
      match String.fromUTF8? (ByteArray.mk bytes.toArray) with
      | none => .error .badYaml
      | some s => return s.toList ++ (← uriCharacters fuel left)
    else do return c :: (← uriCharacters fuel rest)

def uri (c : Cursor) : Except Fault (String × Cursor) :=
  match c.span fun ch => isUriPart ch || ch == '%' with
  | ([], _) => .error .badYaml
  | (cs, c) => do return (String.ofList (← uriCharacters cs.length cs), c)

def handleName (c : Cursor) : Except Fault (String × Cursor) :=
  if c.peek != some '!' then .error .badYaml
  else if c.peekAt 1 == some ' ' then .ok ("!", c.forward)
  else
    let (cs, last) := c.forward.span isNamePart
    if last.peek == some '!' then .ok (String.ofList ('!' :: cs ++ ['!']), last.forward)
    else .error .badYaml

def hasHandle (c : Cursor) : Bool :=
  (c.rest.drop 1).takeWhile (fun ch => !endsWord (some ch)) |>.contains '!'

def openTag (c : Cursor) : Except Fault (Token × Cursor) := do
  if c.peekAt 1 == some '<' then
    let (suffix, c) ← uri (c.skip 2)
    if c.peek == some '>' then return (.tag none suffix, c.forward) else .error .badYaml
  else if endsToken (c.peekAt 1) then return (.tag none "!", c.forward)
  else if hasHandle c then
    let (handle, c) ← handleName c
    let (suffix, c) ← uri c
    return (.tag (some handle) suffix, c)
  else
    let (suffix, c) ← uri c.forward
    return (.tag (some "!") suffix, c)

def readTag (c : Cursor) : Except Fault (Token × Cursor) := do
  let (t, c) ← openTag c
  if endsWord c.peek then return (t, c) else .error .badYaml

def number (c : Cursor) : Except Fault (Nat × Cursor) :=
  match c.span isDigit with
  | ([], _) => .error .badYaml
  | (ds, c) => .ok (ds.foldl (fun acc d => acc * 10 + (d.toNat - 48)) 0, c)

def versionDirective (c : Cursor) : Except Fault (Token × Cursor) := do
  let (major, c) ← number (c.skipWhile (· == ' '))
  if c.peek != some '.' then .error .badYaml
  let (_, c) ← number c.forward
  if endsWord c.peek then return (.version major, c) else .error .badYaml

def handleDirective (c : Cursor) : Except Fault (Token × Cursor) := do
  let (handle, c) ← handleName (c.skipWhile (· == ' '))
  if c.peek != some ' ' then .error .badYaml
  let (beginning, c) ← uri (c.skipWhile (· == ' '))
  if endsWord c.peek then return (.shorthand handle beginning, c) else .error .badYaml

def readDirective (c : Cursor) : Except Fault (Token × Cursor) := do
  let (word, c) ← name c.forward
  if !endsWord c.peek then .error .badYaml
  let (t, c) ←
    match word with
    | "YAML" => versionDirective c
    | "TAG" => handleDirective c
    | _ => .ok (.ignored, c.skipWhile (!isBreak ·))
  return (t, ← c.restOfLine)

end Token

end FieldPipeline.Yaml
