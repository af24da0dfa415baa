import FieldPipeline.Yaml.Cursor

/-!
Scalars: plain texts, texts in quotation marks, and blocks of lines.  Lines that follow one
another are folded into one, and empty lines between them are kept as line feeds.
-/

namespace FieldPipeline.Yaml

/-- What an end of line and the empty lines behind it become when lines are folded. -/
def folded (lineBreak : Char) (emptyLines : List Char) : List Char :=
  if lineBreak != '\n' then lineBreak :: emptyLines
  else if emptyLines.isEmpty then [' ']
  else emptyLines

namespace Plain

def isFlowMark (c : Char) : Bool :=
  [',', '?', '[', ']', '\x7b', '\x7d'].contains c

def separates (inFlow : Bool) (c : Option Char) : Bool :=
  endsToken c || (inFlow && c.any [',', '[', ']', '\x7b', '\x7d'].contains)

def word (inFlow : Bool) : List Char → List Char
  | [] => []
  | c :: rest =>
    if isGap c || isBreak c || (c == ':' && separates inFlow rest.head?)
      || (inFlow && isFlowMark c) then []
    else c :: word inFlow rest

def emptyLines : Nat → Cursor → Option (List Char) × Cursor
  | 0, c => (some [], c)
  | fuel + 1, c =>
    if c.peek == some ' ' then emptyLines fuel c.forward
    else match c.lineBreak? with
      | none => (some [], c)
      | some (b, next) =>
        if next.atDocumentMarker then (none, next)
        else
          let (more, last) := emptyLines fuel next
          (more.map (b :: ·), last)

def gap (c : Cursor) : List Char × Bool × Cursor :=
  let (spaces, c) := c.span (· == ' ')
  match c.lineBreak? with
  | none => (spaces, false, c)
  | some (b, next) =>
    if next.atDocumentMarker then ([], true, next)
    else match emptyLines next.rest.length next with
      | (none, last) => ([], true, last)
      | (some lines, last) => (folded b lines, true, last)

/-- The words of a plain scalar, whether a line ends behind the last one, and the place behind
it.  `before` is what stands in front of the first word. -/
def words (indent : Int) (inFlow : Bool) : Nat → List Char → Bool → Cursor →
    List Char × Bool × Cursor
  | 0, _, ended, c => ([], ended, c)
  | fuel + 1, before, ended, c =>
    match word inFlow c.rest with
    | [] => ([], ended, c)
    | w =>
      let (spaces, ended, c) := gap (c.skip w.length)
      if spaces.isEmpty || c.peek == some '#' || (!inFlow && (c.column : Int) < indent) then
        (before ++ w, ended, c)
      else
        let (more, ended, c) := words indent inFlow fuel spaces ended c
        (before ++ w ++ more, ended, c)

def read (indent : Int) (inFlow : Bool) (c : Cursor) : String × Bool × Cursor :=
  let (cs, ended, c) := words indent inFlow c.rest.length [] false c
  (String.ofList cs, ended, c)

end Plain

namespace Quoted

def escaped? (c : Char) : Option Char :=
  [('0', '\x00'), ('a', '\x07'), ('b', '\x08'), ('t', '\t'), ('\t', '\t'), ('n', '\n'),
    ('v', '\x0b'), ('f', '\x0c'), ('r', '\r'), ('e', '\x1b'), (' ', ' '), ('"', '"'),
    ('\\', '\\'), ('/', '/'), ('N', '\x85'), ('_', '\xa0'), ('L', '\u2028'),
    ('P', '\u2029')].lookup c

def codeLength? (c : Char) : Option Nat :=
  [('x', 2), ('u', 4), ('U', 8)].lookup c

def hexValue? (c : Char) : Option Nat :=
  if '0' ≤ c && c ≤ '9' then some (c.toNat - 48)
  else if 'a' ≤ c && c ≤ 'f' then some (c.toNat - 87)
  else if 'A' ≤ c && c ≤ 'F' then some (c.toNat - 55)
  else none

def codeOf? (cs : List Char) : Option Nat :=
  (cs.mapM hexValue?).map (·.foldl (fun acc d => acc * 16 + d) 0)

def character (code : Nat) : Except Fault Char :=
  if code < 0xD800 || (0xE000 ≤ code && code ≤ 0x10FFFF) then .ok (Char.ofNat code)
  else if code < 0xE000 then .ok '\uFFFD'
  else if code < Nat.pow 2 31 then .error .badValue
  else .error .tooLarge

def emptyLines : Nat → Cursor → Except Fault (List Char × Cursor)
  | 0, c => .ok ([], c)
  | fuel + 1, c =>
    if c.atDocumentMarker then .error .badYaml
    else
      let c := c.skipWhile isGap
      match c.lineBreak? with
      | none => .ok ([], c)
      | some (b, next) => do
        let (more, last) ← emptyLines fuel next
        return (b :: more, last)

def gap (c : Cursor) : Except Fault (List Char × Cursor) :=
  let (spaces, c) := c.span isGap
  match c.lineBreak? with
  | none => if c.peek.isNone then .error .badYaml else .ok (spaces, c)
  | some (b, next) => do
    let (lines, last) ← emptyLines next.rest.length next
    return (folded b lines, last)

def escape (c : Cursor) : Except Fault (List Char × Cursor) :=
  match c.peek with
  | none => .error .badYaml
  | some ch =>
    match escaped? ch, codeLength? ch with
    | some e, _ => .ok ([e], c.forward)
    | none, some n =>
      let digits := (c.rest.drop 1).take n
      match if digits.length = n then codeOf? digits else none with
      | none => .error .badYaml
      | some code => do return ([← character code], c.skip (n + 1))
    | none, none =>
      match c.lineBreak? with
      | some (_, next) => emptyLines next.rest.length next
      | none => .error .badYaml

def characters (mark : Char) : Nat → Cursor → Except Fault (List Char × Cursor)
  | 0, _ => .error .badYaml
  | fuel + 1, c =>
    let followedBy (part : List Char × Cursor) : Except Fault (List Char × Cursor) := do
      let (more, last) ← characters mark fuel part.2
      return (part.1 ++ more, last)
    match c.peek with
    | none => .error .badYaml
    | some ch =>
      if ch == mark then
        if mark == '\'' && c.peekAt 1 == some mark then followedBy ([mark], c.skip 2)
        else .ok ([], c.forward)
      else if isGap ch || isBreak ch then do followedBy (← gap c)
      else if mark == '"' && ch == '\\' then do followedBy (← escape c.forward)
      else followedBy ([ch], c.forward)

def read (mark : Char) (c : Cursor) : Except Fault (String × Cursor) := do
  let (cs, last) ← characters mark (c.rest.length + 1) c.forward
  return (String.ofList cs, last)

end Quoted

namespace Block

/-- What becomes of the ends of lines at the end of a block. -/
inductive Chomping where
  | strip | clip | keep
  deriving DecidableEq, Repr

def chomping? : Option Char → Option Chomping
  | some '+' => some .keep
  | some '-' => some .strip
  | _ => none

def increment? : Option Char → Option Nat
  | some c => if '0' ≤ c && c ≤ '9' then some (c.toNat - 48) else none
  | none => none

def header (c : Cursor) : Except Fault (Chomping × Option Nat × Cursor) := do
  let (chomping, increment, c) :=
    match chomping? c.peek with
    | some chomping =>
      match increment? c.forward.peek with
      | some n => (chomping, some n, c.skip 2)
      | none => (chomping, none, c.forward)
    | none =>
      match increment? c.peek with
      | some n =>
        match chomping? c.forward.peek with
        | some chomping => (chomping, some n, c.skip 2)
        | none => (.clip, some n, c.forward)
      | none => (.clip, none, c)
  if increment = some 0 || !endsWord c.peek then .error .badYaml
  else return (chomping, increment, ← c.restOfLine)

def leading : Nat → Nat → Cursor → List Char × Nat × Cursor
  | 0, widest, c => ([], widest, c)
  | fuel + 1, widest, c =>
    if c.peek == some ' ' then leading fuel (max widest c.forward.column) c.forward
    else match c.lineBreak? with
      | none => ([], widest, c)
      | some (b, next) =>
        let (more, widest, last) := leading fuel widest next
        (b :: more, widest, last)

def indented (indent : Nat) : Nat → Cursor → Cursor
  | 0, c => c
  | fuel + 1, c =>
    if c.column < indent && c.peek == some ' ' then indented indent fuel c.forward else c

def emptyLines (indent : Nat) : Nat → Cursor → List Char × Cursor
  | 0, c => ([], c)
  | fuel + 1, c =>
    let c := indented indent indent c
    match c.lineBreak? with
    | none => ([], c)
    | some (b, next) =>
      let (more, last) := emptyLines indent fuel next
      (b :: more, last)

def goesOn (indent : Nat) (c : Cursor) : Bool :=
  c.column = indent && c.peek.isSome

def joint (isFolded : Bool) (first next : Option Char) (lineBreak : Option Char)
    (lines : List Char) : List Char :=
  if isFolded && lineBreak == some '\n' && !first.any isGap && !next.any isGap then
    if lines.isEmpty then [' '] else []
  else lineBreak.toList

def ending (chomping : Chomping) (lineBreak : Option Char) (lines : List Char) : List Char :=
  match chomping with
  | .strip => []
  | .clip => lineBreak.toList
  | .keep => lineBreak.toList ++ lines

def lines (isFolded : Bool) (chomping : Chomping) (indent : Nat) :
    Nat → List Char → Cursor → List Char × Cursor
  | 0, _, c => ([], c)
  | fuel + 1, before, c =>
    let (line, c') := c.span (!isBreak ·)
    let (lineBreak, next) :=
      match c'.lineBreak? with
      | some (b, next) => (some b, next)
      | none => (none, c')
    let (empty, next) := emptyLines indent next.rest.length next
    if goesOn indent next then
      let (more, last) := lines isFolded chomping indent fuel empty next
      (before ++ line ++ joint isFolded c.peek next.peek lineBreak empty ++ more, last)
    else (before ++ line ++ ending chomping lineBreak empty, next)

def read (isFolded : Bool) (outer : Int) (c : Cursor) : Except Fault (String × Cursor) := do
  let (chomping, increment, c) ← header c.forward
  let least := (max (outer + 1) 1).toNat
  let (before, indent, c) :=
    match increment with
    | some n =>
      let indent := least + n - 1
      let (before, c) := emptyLines indent c.rest.length c
      (before, indent, c)
    | none =>
      let (before, widest, c) := leading c.rest.length 0 c
      (before, max least widest, c)
  let (cs, c) :=
    if goesOn indent c then lines isFolded chomping indent c.rest.length before c
    else (if chomping = .keep then before else [], c)
  return (String.ofList cs, c)

end Block

end FieldPipeline.Yaml
