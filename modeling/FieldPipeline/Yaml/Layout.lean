import FieldPipeline.Yaml.Scalar
import FieldPipeline.Yaml.Token

/-!
How a text divides into tokens.  Outside of brackets the columns tell where sequences and
mappings start and end.  Whether something is a key is known only at the colon behind it, so the
places where keys could start are remembered until then.
-/

namespace FieldPipeline.Yaml

structure KeyStart where
  /-- How many tokens come before it. -/
  place : Nat
  /-- Whether nothing but a key may stand there. -/
  required : Bool
  index : Nat
  line : Nat
  column : Nat
  deriving Repr

structure Layout where
  cursor : Cursor
  tokens : Array Token := #[]
  /-- How many brackets are open. -/
  depth : Nat := 0
  indent : Int := -1
  /-- The indentations around the current one. -/
  outer : List Int := []
  /-- Whether a key could start at the next token. -/
  keyAllowed : Bool := true
  /-- The last place where a key could start, for each depth. -/
  keyStarts : List (Nat × KeyStart) := []

namespace Layout

def push (t : Token) (s : Layout) : Layout :=
  { s with tokens := s.tokens.push t }

def longestKey : Nat := 1024

def isStale (s : Layout) (k : KeyStart) : Bool :=
  k.line != s.cursor.line || k.index + longestKey < s.cursor.index

/-- Forgets the places behind which no colon can come any more. -/
def dropStale (s : Layout) : Except Fault Layout :=
  if s.keyStarts.any fun e => s.isStale e.2 && e.2.required then .error .badYaml
  else .ok { s with keyStarts := s.keyStarts.filter fun e => !s.isStale e.2 }

def keyStart? (s : Layout) : Option KeyStart :=
  s.keyStarts.lookup s.depth

def withoutKeyStart (s : Layout) : Layout :=
  { s with keyStarts := s.keyStarts.filter fun e => e.1 != s.depth }

def dropKeyStart (s : Layout) : Except Fault Layout :=
  if s.keyStart?.any (·.required) then .error .badYaml else .ok s.withoutKeyStart

def saveKeyStart (s : Layout) : Except Fault Layout :=
  if !s.keyAllowed then .ok s
  else do
    let c := s.cursor
    let k : KeyStart := {
      place := s.tokens.size
      required := s.depth = 0 && s.indent = c.column
      index := c.index, line := c.line, column := c.column }
    let s ← s.dropKeyStart
    return { s with keyStarts := (s.depth, k) :: s.keyStarts }

def unwindTo (column : Int) (indent : Int) : List Int → Array Token → Int × List Int × Array Token
  | [], tokens => (indent, [], tokens)
  | next :: rest, tokens =>
    if column < indent then unwindTo column next rest (tokens.push .blockEnd)
    else (indent, next :: rest, tokens)

def unwind (column : Int) (s : Layout) : Layout :=
  if s.depth ≠ 0 then s
  else
    let (indent, outer, tokens) := unwindTo column s.indent s.outer s.tokens
    { s with indent, outer, tokens }

def indentTo (column : Nat) (start : Token) (place : Nat) (s : Layout) : Layout :=
  if s.depth = 0 && s.indent < column then
    { s with
      outer := s.indent :: s.outer
      indent := column
      tokens := s.tokens.insertIdxIfInBounds place start }
  else s

def indentHere (start : Token) (s : Layout) : Layout :=
  s.indentTo s.cursor.column start s.tokens.size

def mark (length : Nat) (t : Token) (s : Layout) : Layout :=
  { s with cursor := s.cursor.skip length }.push t

def betweenDocuments (s : Layout) : Except Fault Layout := do
  let s ← (s.unwind (-1)).dropKeyStart
  return { s with keyAllowed := false }

def directive (s : Layout) : Except Fault Layout := do
  let s ← s.betweenDocuments
  let (t, cursor) ← Token.readDirective s.cursor
  return { s with cursor }.push t

def flowStart (t : Token) (s : Layout) : Except Fault Layout := do
  let s ← s.saveKeyStart
  return { s with depth := s.depth + 1, keyAllowed := true }.mark 1 t

def flowEnd (t : Token) (s : Layout) : Except Fault Layout := do
  let s ← s.dropKeyStart
  return { s with depth := s.depth - 1, keyAllowed := false }.mark 1 t

def flowEntry (s : Layout) : Except Fault Layout := do
  let s ← s.dropKeyStart
  return { s with keyAllowed := true }.mark 1 .flowEntry

def blockEntry (s : Layout) : Except Fault Layout := do
  if s.depth = 0 && !s.keyAllowed then .error .badYaml
  let s ← (s.indentHere .blockSequence).dropKeyStart
  return { s with keyAllowed := true }.mark 1 .blockEntry

def explicitKey (s : Layout) : Except Fault Layout := do
  if s.depth = 0 && !s.keyAllowed then .error .badYaml
  let s ← (s.indentHere .blockMapping).dropKeyStart
  return { s with keyAllowed := s.depth = 0 }.mark 1 .key

/-- Takes a colon.  What stands in front of it is a key if a key could start there. -/
def value (s : Layout) : Except Fault Layout :=
  match s.keyStart? with
  | some k =>
    let s := { s.withoutKeyStart with tokens := s.tokens.insertIdxIfInBounds k.place .key }
    let s := s.indentTo k.column .blockMapping k.place
    .ok ({ s with keyAllowed := false }.mark 1 .value)
  | none => do
    if s.depth = 0 && !s.keyAllowed then .error .badYaml
    let s ← (s.indentHere .blockMapping).dropKeyStart
    return { s with keyAllowed := s.depth = 0 }.mark 1 .value

def keyWord (read : Cursor → Except Fault (Token × Cursor)) (s : Layout) :
    Except Fault Layout := do
  let s ← s.saveKeyStart
  let (t, cursor) ← read s.cursor
  return { s with keyAllowed := false, cursor }.push t

def block (isFolded : Bool) (s : Layout) : Except Fault Layout := do
  let s ← s.dropKeyStart
  let (text, cursor) ← Block.read isFolded s.indent s.cursor
  return { s with keyAllowed := true, cursor }.push (.scalar false text)

def plain (s : Layout) : Except Fault Layout := do
  let s ← s.saveKeyStart
  let (text, ended, cursor) := Plain.read (s.indent + 1) (s.depth ≠ 0) s.cursor
  return { s with keyAllowed := ended, cursor }.push (.scalar true text)

def named (make : String → Token) (c : Cursor) : Except Fault (Token × Cursor) := do
  let (name, c) ← Token.anchorName c
  return (make name, c)

def quoted (quote : Char) (c : Cursor) : Except Fault (Token × Cursor) := do
  let (text, c) ← Quoted.read quote c
  return (.scalar false text, c)

def startMarks : List Char :=
  "-?:,[]\x7b\x7d#&*!|>'\"%@`".toList

def startsPlain (s : Layout) (c : Char) : Bool :=
  !(endsToken (some c) || startMarks.contains c)
    || (!endsToken (s.cursor.peekAt 1) && (c == '-' || (s.depth = 0 && (c == '?' || c == ':'))))

def take (c : Char) (s : Layout) : Except Fault Layout :=
  let column := s.cursor.column
  let stands : Bool := endsToken (s.cursor.peekAt 1)
  if c == '%' && column = 0 then s.directive
  else if column = 0 && s.cursor.isMarker '-' then do
    return (← s.betweenDocuments).mark 3 .documentStart
  else if column = 0 && s.cursor.isMarker '.' then do
    return (← s.betweenDocuments).mark 3 .documentEnd
  else if c == '[' then s.flowStart .flowSequence
  else if c == '\x7b' then s.flowStart .flowMapping
  else if c == ']' then s.flowEnd .flowSequenceEnd
  else if c == '\x7d' then s.flowEnd .flowMappingEnd
  else if c == ',' then s.flowEntry
  else if c == '-' && stands then s.blockEntry
  else if c == '?' && (s.depth ≠ 0 || stands) then s.explicitKey
  else if c == ':' && (s.depth ≠ 0 || stands) then s.value
  else if c == '*' then s.keyWord (named .alias)
  else if c == '&' then s.keyWord (named .anchor)
  else if c == '!' then s.keyWord Token.readTag
  else if c == '|' && s.depth = 0 then s.block false
  else if c == '>' && s.depth = 0 then s.block true
  else if c == '\'' || c == '"' then s.keyWord (quoted c)
  else if s.startsPlain c then s.plain
  else .error .badYaml

/-- Goes to the next token.  Outside of brackets, a key could start on every new line. -/
def toNext : Nat → Layout → Layout
  | 0, s => s
  | fuel + 1, s =>
    let c := s.cursor.skipFiller
    match c.lineBreak? with
    | some (_, next) =>
      toNext fuel { s with cursor := next, keyAllowed := s.keyAllowed || s.depth = 0 }
    | none => { s with cursor := c }

def run : Nat → Layout → Except Fault (Array Token)
  | 0, s => .ok s.tokens
  | fuel + 1, s => do
    let s ← (s.toNext s.cursor.rest.length).dropStale
    let s := s.unwind s.cursor.column
    match s.cursor.peek with
    | none => return (← s.betweenDocuments).tokens
    | some c => run fuel (← s.take c)

end Layout

def withoutByteOrderMark : List Char → List Char
  | '\uFEFF' :: rest => rest
  | cs => cs

def tokens (text : String) : Except Fault (List Token) := do
  let cs := text.toList
  if !cs.all isPrintable then .error .badYaml
  let cs := withoutByteOrderMark cs
  let tokens ← Layout.run (cs.length + 1) { cursor := { rest := cs } }
  return tokens.toList

end FieldPipeline.Yaml
