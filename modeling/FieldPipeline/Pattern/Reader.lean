import FieldPipeline.Number.Numeral
import FieldPipeline.Pattern.Basic
import FieldPipeline.Text.CharacterName

/-!
Reading patterns.  A text that is no pattern is refused; the groups are numbered in the order of
their opening brackets.
-/

namespace FieldPipeline.Pattern

open FieldPipeline.Number FieldPipeline.Text

structure Reading where
  rest : List Char
  /-- How many groups have been opened. -/
  opened : Nat := 0
  closed : List (Nat × Width) := []
  names : List (String × Nat) := []
  /-- While a look behind is read, how many groups there were before it. -/
  behind : Option Nat := none
  /-- The greatest number by which a condition names a group. -/
  conditions : Nat := 0

abbrev Read (α : Type) := StateT Reading (Except Fault) α

namespace Read

def refuse {α : Type} : Read α :=
  throw .badPattern

def peek : Read (Option Char) := do
  return (← get).rest.head?

def setRest (rest : List Char) : Read Unit :=
  modify fun r => { r with rest }

def next? : Read (Option Char) := do
  match (← get).rest with
  | [] => return none
  | c :: rest => do
    setRest rest
    return some c

def next : Read Char := do
  match ← next? with
  | some c => return c
  | none => refuse

def accept (c : Char) : Read Bool := do
  match (← get).rest with
  | d :: rest => if c == d then do setRest rest; return true else return false
  | [] => return false

def expect (c : Char) : Read Unit := do
  if ← accept c then pure () else refuse

def takeWhile (most : Nat) (test : Char → Bool) : Read (List Char) := do
  let taken := ((← get).rest.take most).takeWhile test
  modify fun r => { r with rest := r.rest.drop taken.length }
  return taken

def upTo (closing : Char) : Read (List Char) := do
  let taken := (← get).rest.takeWhile (· != closing)
  modify fun r => { r with rest := r.rest.drop taken.length }
  expect closing
  if taken.isEmpty then refuse else return taken

end Read

open Read

def isDigitIn (base : Nat) (c : Char) : Bool :=
  (digitIn? base c).isSome

def ofDigits (base : Nat) (ds : List Char) : Nat :=
  ds.foldl (fun n d => n * base + (digitIn? base d).getD 0) 0

inductive Escaped where
  | point (n : Nat)
  | sort (s : Family) (negated : Bool)
  | spot (s : Spot)
  | reference (number : Nat)

def sortOf? (c : Char) : Option (Family × Bool) :=
  match c with
  | 'd' => some (.digit, false)
  | 'D' => some (.digit, true)
  | 's' => some (.space, false)
  | 'S' => some (.space, true)
  | 'w' => some (.word, false)
  | 'W' => some (.word, true)
  | _ => none

def controlOf? (c : Char) : Option Nat :=
  match c with
  | 'a' => some 7
  | 'b' => some 8
  | 'f' => some 12
  | 'n' => some 10
  | 'r' => some 13
  | 't' => some 9
  | 'v' => some 11
  | '\\' => some 92
  | _ => none

def fixedHex (width : Nat) : Read Nat := do
  let ds ← takeWhile width (isDigitIn 16)
  if ds.length == width then return ofDigits 16 ds else refuse

def namedPoint : Read Nat := do
  expect '\x7b'
  match characterNamed? (← upTo '\x7d') with
  | some c => return c.toNat
  | none => refuse

def pointEscape (c : Char) : Read Nat := do
  match c with
  | 'x' => fixedHex 2
  | 'u' => fixedHex 4
  | 'U' => do
    let n ← fixedHex 8
    if n ≤ 0x10FFFF then return n else refuse
  | 'N' => namedPoint
  | c => if c.isAlphanum then refuse else return c.toNat

def octalPoint (ds : List Char) : Read Nat :=
  let n := ofDigits 8 ds
  if n ≤ 0o377 then pure n else refuse

def classEscape : Read Escaped := do
  let c ← next
  match controlOf? c, sortOf? c with
  | some n, _ => return .point n
  | none, some (s, negated) => return .sort s negated
  | none, none =>
    if isDigitIn 8 c then
      let more ← takeWhile 2 (isDigitIn 8)
      return .point (← octalPoint (c :: more))
    else return .point (← pointEscape c)

def spotOf? (flags : Flags) (c : Char) : Option Spot :=
  match c with
  | 'A' => some .textStart
  | 'Z' => some .textEnd
  | 'b' => some (.wordEdge flags.ascii)
  | 'B' => some (.insideOrOutside flags.ascii)
  | _ => none

/-- A number behind a backslash: three octal digits are a code point, all else is a group. -/
def numberEscape (c : Char) : Read Escaped := do
  let second ← takeWhile 1 isDigit
  let third := ((← get).rest.head?.filter (isDigitIn 8)).toList
  if isDigitIn 8 c && second.all (isDigitIn 8) && !second.isEmpty && !third.isEmpty then
    let _ ← next
    return .point (← octalPoint (c :: second ++ third))
  else return .reference (digitsToNat (c :: second))

def escape (flags : Flags) : Read Escaped := do
  let c ← next
  match spotOf? flags c, sortOf? c, controlOf? c with
  | some s, _, _ => return .spot s
  | none, some (s, negated), _ => return .sort s negated
  | none, none, some n => return .point n
  | none, none, none =>
    if c == '0' then
      let more ← takeWhile 2 (isDigitIn 8)
      return .point (ofDigits 8 more)
    else if isDigit c then numberEscape c
    else return .point (← pointEscape c)

def referenceTo (flags : Flags) (number : Nat) : Read Node := do
  let r ← get
  match r.closed.lookup number with
  | none => refuse
  | some width =>
    if r.behind.any (· < number) then refuse
    else return .reference number width flags.ignoreCase flags.ascii

def single (flags : Flags) (items : List Item) (negated : Bool) : Node :=
  .oneOf ⟨items, negated, flags.ignoreCase, flags.ascii⟩

def escapedNode (flags : Flags) : Escaped → Read Node
  | .point n => pure (single flags [.span n n] false)
  | .sort s negated => pure (single flags [.sort s negated] false)
  | .spot s => pure (.spot s)
  | .reference number => referenceTo flags number

def classMember (c : Char) : Read Escaped :=
  if c == '\\' then classEscape else pure (.point c.toNat)

def memberItem : Escaped → Item
  | .point n => .span n n
  | .sort s negated => .sort s negated
  | _ => .span 1 0

def classItems : Nat → List Item → Read (List Item)
  | 0, _ => refuse
  | fuel + 1, items => do
    let c ← next
    if c == ']' && !items.isEmpty then return items.reverse
    let low ← classMember c
    if ← accept '-' then
      let d ← next
      if d == ']' then return (.span 45 45 :: memberItem low :: items).reverse
      match low, ← classMember d with
      | .point m, .point n => if m ≤ n then classItems fuel (.span m n :: items) else refuse
      | _, _ => refuse
    else classItems fuel (memberItem low :: items)

def mostRepetitions : Nat := 4294967295

def countOf (ds : List Char) : Read (Option Nat) :=
  if ds.isEmpty then pure none
  else
    let n := digitsToNat ds
    if mostRepetitions ≤ n then throw .tooLarge else pure (some n)

/-- The bounds between braces, read behind the opening one; `none` when it stands for itself. -/
def bounds : Read (Option (Nat × Option Nat)) := do
  let start := (← get).rest
  if start.head? == some '\x7d' then return none
  let low ← takeWhile start.length isDigit
  let many ← accept ','
  let high ← if many then takeWhile start.length isDigit else pure low
  if ← accept '\x7d' then
    let least ← countOf low
    let most ← countOf high
    if most.any (· < least.getD 0) then refuse
    return some (least.getD 0, most)
  else
    setRest start
    return none

def quantifier (c : Char) : Read (Option (Nat × Option Nat)) :=
  match c with
  | '?' => pure (some (0, some 1))
  | '*' => pure (some (0, none))
  | '+' => pure (some (1, none))
  | '\x7b' => bounds
  | _ => pure none

def greed : Read Greed := do
  if ← accept '?' then return .lazy
  if ← accept '+' then return .possessive
  return .greedy

inductive PartKind where
  | plain | spot | repeated
  deriving DecidableEq

structure Part where
  node : Node
  kind : PartKind := .plain

def sequenceOf (parts : List Part) : Node :=
  parts.foldl (fun rest part => match rest with
    | .empty => part.node
    | rest => .sequence part.node rest) .empty

/-- Repeats the last part of a sequence; the parts are listed from the last one on. -/
def repeatLast (parts : List Part) (least : Nat) (most : Option Nat) : Read (List Part) :=
  match parts with
  | ⟨node, .plain⟩ :: before => do
    return ⟨.repeated node least most (← greed), .repeated⟩ :: before
  | _ => refuse

def skipComment (closing : Char) : List Char → Option (List Char)
  | [] => none
  | '\\' :: _ :: rest => skipComment closing rest
  | c :: rest => if c == closing then some rest else skipComment closing rest

def flagLetters (fuel : Nat) (seen : List Char) : Read (List Char) := do
  match fuel with
  | 0 => refuse
  | fuel + 1 =>
    match ← peek with
    | some c =>
      if "aimsxut".contains c then do
        let _ ← next
        flagLetters fuel (c :: seen)
      else return seen
    | none => refuse

def setFlags (flags : Flags) (letters : List Char) (value : Bool) : Flags :=
  letters.foldl (fun f c => match c with
    | 'i' => { f with ignoreCase := value }
    | 'm' => { f with multiLine := value }
    | 's' => { f with dotAll := value }
    | 'x' => { f with verbose := value }
    | 'a' => { f with ascii := value }
    | 'u' => { f with ascii := false }
    | _ => f) flags

/-- Flags in brackets, read behind the question mark: `none` for flags of the whole pattern,
whose letters have been read, else the flags of a group. -/
def groupFlags (flags : Flags) : Read (Flags × Bool) := do
  let fuel := (← get).rest.length + 1
  let on ← flagLetters fuel []
  if on.contains 'a' && on.contains 'u' then refuse
  let flagged := setFlags flags on true
  match ← next with
  | ')' => if on.isEmpty then refuse else return (flagged, true)
  | ':' => if on.isEmpty || on.contains 't' then refuse else return (flagged, false)
  | '-' => do
    let off ← flagLetters fuel []
    expect ':'
    if off.isEmpty || on.contains 't' || ['a', 'u', 't'].any off.contains
        || on.any off.contains then
      refuse
    return (setFlags flagged off false, false)
  | _ => refuse

def isName (cs : List Char) : Bool :=
  match cs with
  | c :: rest => isIdentifierStart c && rest.all isIdentifierPart
  | [] => false

def groupName (closing : Char) : Read String := do
  let cs ← upTo closing
  if isName cs then return String.ofList cs else refuse

def conditionGroup : Read Nat := do
  let cs ← upTo ')'
  let r ← get
  if isName cs then
    match r.names.lookup (String.ofList cs) with
    | some number => return number
    | none => refuse
  else if cs.all isDigit && digitsToNat cs != 0 then
    let number := digitsToNat cs
    set { r with conditions := max r.conditions number }
    return number
  else refuse

def openGroup (name : Option String) : Read Nat := do
  let r ← get
  let number := r.opened + 1
  match name with
  | some name =>
    if (r.names.lookup name).isSome then refuse
    set { r with opened := number, names := (name, number) :: r.names }
  | none => set { r with opened := number }
  return number

def closeGroup (number : Nat) (p : Node) : Read Node := do
  modify fun r => { r with closed := (number, p.width) :: r.closed }
  return .group number p

def isLayout (c : Char) : Bool :=
  [' ', '\t', '\n', '\r', '\x0b', '\x0c'].contains c

mutual

def choices : Nat → Flags → Read Node
  | 0, _ => refuse
  | fuel + 1, flags => do
    let first ← sequence fuel flags []
    if ← accept '|' then return .choice first (← choices fuel flags) else return first

def sequence : Nat → Flags → List Part → Read Node
  | 0, _, _ => refuse
  | fuel + 1, flags, parts => do
    match ← peek with
    | none | some '|' | some ')' => return sequenceOf parts
    | some c =>
      let _ ← next
      if flags.verbose && isLayout c then sequence fuel flags parts
      else if flags.verbose && c == '#' then
        modify fun r => { r with rest := (skipComment '\n' r.rest).getD [] }
        sequence fuel flags parts
      else if ['?', '*', '+', '\x7b'].contains c then
        match ← quantifier c with
        | some (least, most) => do sequence fuel flags (← repeatLast parts least most)
        | none =>
          sequence fuel flags (⟨single flags [.span c.toNat c.toNat] false, .plain⟩ :: parts)
      else
        match ← part fuel flags c with
        | some p => sequence fuel flags (p :: parts)
        | none => sequence fuel flags parts

def part : Nat → Flags → Char → Read (Option Part)
  | 0, _, _ => refuse
  | fuel + 1, flags, c => do
    match c with
    | '\\' => do
      let node ← escapedNode flags (← escape flags)
      let kind := match node with
        | .spot _ => .spot
        | _ => .plain
      return some ⟨node, kind⟩
    | '[' => do
      let negated ← accept '^'
      let items ← classItems ((← get).rest.length + 1) []
      return some ⟨single flags items negated, .plain⟩
    | '.' =>
      let items := if flags.dotAll then [] else [.span 10 10]
      return some ⟨.oneOf ⟨items, true, false, false⟩, .plain⟩
    | '^' => return some ⟨.spot (if flags.multiLine then .lineStart else .textStart), .spot⟩
    | '$' => return some ⟨.spot (if flags.multiLine then .lineEnd else .lastLineEnd), .spot⟩
    | '(' => if ← accept '?' then special fuel flags else captured fuel flags none
    | c => return some ⟨single flags [.span c.toNat c.toNat] false, .plain⟩

def captured : Nat → Flags → Option String → Read (Option Part)
  | 0, _, _ => refuse
  | fuel + 1, flags, name => do
    let number ← openGroup name
    let p ← choices fuel flags
    expect ')'
    return some ⟨← closeGroup number p, .plain⟩

def special : Nat → Flags → Read (Option Part)
  | 0, _ => refuse
  | fuel + 1, flags => do
    match ← peek with
    | some 'P' => do
      let _ ← next
      if ← accept '<' then captured fuel flags (some (← groupName '>'))
      else do
        expect '='
        let name ← groupName ')'
        match (← get).names.lookup name with
        | some number => return some ⟨← referenceTo flags number, .plain⟩
        | none => refuse
    | some ':' => do
      let _ ← next
      enclosed fuel flags id
    | some '>' => do
      let _ ← next
      enclosed fuel flags .atomic
    | some '#' => do
      match skipComment ')' (← get).rest with
      | some rest => do
        setRest rest
        return none
      | none => refuse
    | some '=' => do
      let _ ← next
      enclosed fuel flags (.ahead false)
    | some '!' => do
      let _ ← next
      enclosed fuel flags (.ahead true)
    | some '<' => do
      let _ ← next
      let negated ← accept '!'
      if negated then lookBehind fuel flags true
      else do
        expect '='
        lookBehind fuel flags false
    | some '(' => do
      let _ ← next
      conditional fuel flags
    | _ => do
      let (inner, whole) ← groupFlags flags
      if whole then refuse else enclosed fuel inner id

def enclosed : Nat → Flags → (Node → Node) → Read (Option Part)
  | 0, _, _ => refuse
  | fuel + 1, flags, wrap => do
    let p ← choices fuel flags
    expect ')'
    return some ⟨wrap p, .plain⟩

def lookBehind : Nat → Flags → Bool → Read (Option Part)
  | 0, _, _ => refuse
  | fuel + 1, flags, negated => do
    let outer := (← get).behind
    modify fun r => { r with behind := outer.orElse fun _ => some r.opened }
    let p ← choices fuel flags
    modify fun r => { r with behind := outer }
    expect ')'
    if some p.width.least == p.width.most then
      return some ⟨.behind p.width.least negated p, .plain⟩
    else refuse

def conditional : Nat → Flags → Read (Option Part)
  | 0, _ => refuse
  | fuel + 1, flags => do
    let number ← conditionGroup
    let r ← get
    if r.behind.any fun before => before < number || (r.closed.lookup number).isNone then refuse
    let p ← sequence fuel flags []
    let q ← if ← accept '|' then sequence fuel flags [] else pure .empty
    expect ')'
    return some ⟨.ifGroup number p q, .plain⟩

end

def leadingFlags : Nat → Flags → Read Flags
  | 0, flags => pure flags
  | fuel + 1, flags => do
    match (← get).rest with
    | '(' :: '?' :: '#' :: rest =>
      match skipComment ')' rest with
      | some rest => do
        setRest rest
        leadingFlags fuel flags
      | none => refuse
    | '(' :: '?' :: c :: rest =>
      if "aimsxut".contains c then
        let start ← get
        setRest (c :: rest)
        match ← groupFlags flags with
        | (flags, true) => leadingFlags fuel flags
        | (_, false) => do
          set start
          return flags
      else return flags
    | c :: rest =>
      if flags.verbose && isLayout c then do
        setRest rest
        leadingFlags fuel flags
      else if flags.verbose && c == '#' then do
        setRest ((skipComment '\n' rest).getD [])
        leadingFlags fuel flags
      else return flags
    | [] => return flags

def wholePattern (fuel : Nat) : Read Node := do
  let flags ← leadingFlags fuel {}
  let p ← choices fuel flags
  let r ← get
  if r.rest.isEmpty && r.conditions ≤ r.opened then return p else refuse

def read (s : String) : Except Fault Node :=
  let cs := s.toList
  ((wholePattern (4 * cs.length + 8)).run { rest := cs }).map Prod.fst

end FieldPipeline.Pattern
