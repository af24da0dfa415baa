import FieldPipeline.Rule.Chain

/-!
Rules under paths.  The chain of a path begins with the actions at the root and goes on with
those at each node on the way.
-/

namespace FieldPipeline

inductive RuleTree where
  | node (actions : List Action) (children : List (String × RuleTree))

namespace RuleTree

def actions : RuleTree → List Action
  | node as _ => as

def children : RuleTree → List (String × RuleTree)
  | node _ cs => cs

def leaf : RuleTree := node [] []

def pieces (current : List Char) : List Char → List (List Char)
  | [] => [current.reverse]
  | '/' :: rest => current.reverse :: pieces [] rest
  | c :: rest => pieces (c :: current) rest

/-- The keys on the way along a path.  A slash in front is not needed, and slashes at the end do
not count. -/
def keys (path : String) : List String :=
  let cs := path.toList
  let rooted := if cs.head? == some '/' then cs else '/' :: cs
  let trimmed := (rooted.reverse.dropWhile (· == '/')).reverse
  ((pieces [] trimmed).drop 1).map String.ofList

def child? (key : String) (t : RuleTree) : Option RuleTree :=
  t.children.lookup key

def setChild (key : String) (child : RuleTree) :
    List (String × RuleTree) → List (String × RuleTree)
  | [] => [(key, child)]
  | (name, old) :: rest =>
    if name = key then (name, child) :: rest else (name, old) :: setChild key child rest

def extend (actions : List Action) : List String → RuleTree → RuleTree
  | [], t => node (t.actions ++ actions) t.children
  | key :: rest, t =>
    let child := extend actions rest ((t.child? key).getD leaf)
    node t.actions (setChild key child t.children)

def collect? : List String → RuleTree → Option (List Action)
  | [], t => some t.actions
  | key :: rest, t => do
    let below ← collect? rest (← t.child? key)
    return t.actions ++ below

def collect (path : String) (t : RuleTree) : Except ChainError (List Action) :=
  match t.collect? (keys path) with
  | some actions => .ok actions
  | none => .error (.unknownPath path)

def reaches : List String → RuleTree → Bool
  | [], _ => true
  | key :: rest, t =>
    match t.child? key with
    | some below => below.reaches rest
    | none => false

def hasPath (path : String) (t : RuleTree) : Bool :=
  t.reaches (keys path)

def add (path : String) (offered : List Offered) (t : RuleTree) : Except FeatureProblem RuleTree :=
  (Offered.actions offered).map fun actions => t.extend actions (keys path)

def run (path : String) (facts : Facts) (t : RuleTree) : Run Result :=
  match t.collect path with
  | .ok actions => Chain.run actions (some path) facts
  | .error e => Run.fail (.chain e)

end RuleTree

end FieldPipeline
