import FieldPipeline.Yaml.Layout
import FieldPipeline.Yaml.Resolution

/-!
Documents as trees of scalars, sequences and mappings with their tags.
-/

namespace FieldPipeline.Yaml

inductive Node where
  | scalar (tag text : String)
  | sequence (tag : String) (items : List Node)
  | mapping (tag : String) (entries : List (Node × Node))
  deriving Repr, Inhabited

structure Remainder where
  tokens : List Token
  anchors : List (String × Node) := []

abbrev Reading (α : Type) := StateT Remainder (Except Fault) α

abbrev Handles := List (String × String)

namespace Node

def empty : Node :=
  .scalar (Tag.core "null") ""

def refuse {α : Type} : Reading α :=
  throw Fault.badYaml

def peek : Reading (Option Token) := do
  return (← get).tokens.head?

def drop : Reading Unit :=
  modify fun r => { r with tokens := r.tokens.drop 1 }

def accept (t : Token) : Reading Bool := do
  if (← peek) = some t then
    drop
    return true
  else return false

def expect (t : Token) : Reading Unit := do
  if !(← accept t) then refuse

def comes (ts : List Token) : Reading Bool := do
  return (← peek).any ts.contains

def anchorHere : Reading (Option String) := do
  match ← peek with
  | some (.anchor name) => do
    drop
    return some name
  | _ => return none

def tagHere (handles : Handles) : Reading (Option String) := do
  match ← peek with
  | some (.tag none suffix) => do
    drop
    return some suffix
  | some (.tag (some handle) suffix) => do
    drop
    match handles.lookup handle with
    | some beginning => return some (beginning ++ suffix)
    | none => refuse
  | _ => return none

def properties (handles : Handles) : Reading (Option String × Option String) := do
  match ← anchorHere with
  | some name => return (some name, ← tagHere handles)
  | none => do
    let tag ← tagHere handles
    return (← anchorHere, tag)

def given? (tag : Option String) : Option String :=
  tag.filter (· != "!")

def scalarOf (tag : Option String) (isPlain : Bool) (text : String) : Node :=
  match given? tag with
  | some tag => .scalar tag text
  | none =>
    if isPlain || tag.isSome then .scalar (plainTag text) text
    else .scalar (Tag.core "str") text

def sequenceOf (tag : Option String) (items : List Node) : Node :=
  .sequence ((given? tag).getD (Tag.core "seq")) items

def mappingOf (tag : Option String) (entries : List (Node × Node)) : Node :=
  .mapping ((given? tag).getD (Tag.core "map")) entries

def remember (anchor : Option String) (n : Node) : Reading Node := do
  match anchor with
  | none => return n
  | some name => do
    if (← get).anchors.any (·.1 == name) then refuse
    modify fun r => { r with anchors := (name, n) :: r.anchors }
    return n

def referredTo (name : String) : Reading Node := do
  match (← get).anchors.lookup name with
  | some n => return n
  | none => refuse

inductive Site where
  /-- Inside brackets. -/
  | flow
  | block
  /-- In a mapping, where a sequence needs no indentation. -/
  | member
  deriving DecidableEq, Repr

mutual

/-- A node.  Four steps or fewer use up a token, so a fuel of four for each token suffices. -/
def read (handles : Handles) : Nat → Site → Reading Node
  | 0, _ => refuse
  | fuel + 1, site => do
    match ← peek with
    | some (.alias name) => do
      drop
      referredTo name
    | _ => do
      let (anchor, tag) ← properties handles
      let n ← content handles fuel site anchor tag
      remember anchor n

def content (handles : Handles) : Nat → Site → Option String → Option String → Reading Node
  | 0, _, _, _ => refuse
  | fuel + 1, site, anchor, tag => do
    match ← peek, site with
    | some .blockEntry, .member => return sequenceOf tag (← openItems handles fuel)
    | some (.scalar isPlain text), _ => do
      drop
      return scalarOf tag isPlain text
    | some .flowSequence, _ => do
      drop
      return sequenceOf tag (← flowItems handles fuel true)
    | some .flowMapping, _ => do
      drop
      return mappingOf tag (← flowEntries handles fuel true)
    | some .blockSequence, .block | some .blockSequence, .member => do
      drop
      return sequenceOf tag (← items handles fuel)
    | some .blockMapping, .block | some .blockMapping, .member => do
      drop
      return mappingOf tag (← entries handles fuel)
    | _, _ => if anchor.isSome || tag.isSome then return scalarOf tag true "" else refuse

def optional (handles : Handles) : Nat → Site → List Token → Reading Node
  | 0, _, _ => refuse
  | fuel + 1, site, ends => do
    if ← comes ends then return empty else read handles fuel site

def items (handles : Handles) : Nat → Reading (List Node)
  | 0 => refuse
  | fuel + 1 => do
    if ← accept .blockEntry then
      let item ← optional handles fuel .block [.blockEntry, .blockEnd]
      return item :: (← items handles fuel)
    else do
      expect .blockEnd
      return []

def openItems (handles : Handles) : Nat → Reading (List Node)
  | 0 => refuse
  | fuel + 1 => do
    if ← accept .blockEntry then
      let item ← optional handles fuel .block [.blockEntry, .key, .value, .blockEnd]
      return item :: (← openItems handles fuel)
    else return []

def entryValue (handles : Handles) : Nat → Site → List Token → Reading Node
  | 0, _, _ => refuse
  | fuel + 1, site, ends => do
    if ← accept .value then optional handles fuel site ends else return empty

def entries (handles : Handles) : Nat → Reading (List (Node × Node))
  | 0 => refuse
  | fuel + 1 => do
    let ends : List Token := [.key, .value, .blockEnd]
    if ← accept .key then
      let key ← optional handles fuel .member ends
      let value ← entryValue handles fuel .member ends
      return (key, value) :: (← entries handles fuel)
    else do
      expect .blockEnd
      return []

/-- The items of a sequence in brackets.  A single entry of a mapping can be an item. -/
def flowItems (handles : Handles) : Nat → Bool → Reading (List Node)
  | 0, _ => refuse
  | fuel + 1, isFirst => do
    if ← accept .flowSequenceEnd then return []
    if !isFirst then
      expect .flowEntry
      if ← accept .flowSequenceEnd then return []
    let item ← do
      if ← accept .key then
        let key ← optional handles fuel .flow [.value, .flowEntry, .flowSequenceEnd]
        let value ← entryValue handles fuel .flow [.flowEntry, .flowSequenceEnd]
        pure (mappingOf none [(key, value)])
      else read handles fuel .flow
    return item :: (← flowItems handles fuel false)

def flowEntries (handles : Handles) : Nat → Bool → Reading (List (Node × Node))
  | 0, _ => refuse
  | fuel + 1, isFirst => do
    if ← accept .flowMappingEnd then return []
    if !isFirst then
      expect .flowEntry
      if ← accept .flowMappingEnd then return []
    let entry ← do
      if ← accept .key then
        let key ← optional handles fuel .flow [.value, .flowEntry, .flowMappingEnd]
        let value ← entryValue handles fuel .flow [.flowEntry, .flowMappingEnd]
        pure (key, value)
      else do
        let key ← read handles fuel .flow
        pure (key, empty)
    return entry :: (← flowEntries handles fuel false)

end

def usualHandles : Handles :=
  [("!", "!"), ("!!", Tag.beginning)]

def directives : List Token → Bool → Handles → Except Fault (Handles × List Token)
  | .version major :: rest, versioned, handles =>
    if versioned || major ≠ 1 then .error .badYaml else directives rest true handles
  | .shorthand name beginning :: rest, versioned, handles =>
    if handles.any (·.1 == name) then .error .badYaml
    else directives rest versioned ((name, beginning) :: handles)
  | .ignored :: rest, versioned, handles => directives rest versioned handles
  | rest, _, handles => .ok (handles ++ usualHandles, rest)

def isDirective : Token → Bool
  | .version _ | .shorthand _ _ | .ignored => true
  | _ => false

def dropEnds (ts : List Token) : List Token :=
  ts.dropWhile (· == .documentEnd)

def document (content : Reading Node) (ts : List Token) : Except Fault Node := do
  let (n, r) ← content.run { tokens := ts }
  if (dropEnds r.tokens).isEmpty then return n else .error .badYaml

def marked (handles : Handles) (fuel : Nat) : Reading Node := do
  match ← peek with
  | none | some .documentStart | some .documentEnd => return empty
  | some t => if isDirective t then return empty else read handles fuel .block

def ofTokens (ts : List Token) : Except Fault (Option Node) := do
  let fuel := 4 * ts.length + 8
  match ts with
  | [] => return none
  | t :: _ =>
    if isDirective t || t == .documentStart then
      let (handles, ts) ← directives ts false []
      match ts with
      | .documentStart :: ts => return some (← document (marked handles fuel) ts)
      | _ => .error .badYaml
    else return some (← document (read usualHandles fuel .block) ts)

end Node

end FieldPipeline.Yaml
