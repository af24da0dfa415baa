import FieldPipeline.Graph.Order
import FieldPipeline.Routine.Basic
import FieldPipeline.Routine.Token

/-!
The routine of an entity.  The uses on a field keep their order, and whoever reads a field comes
after the last use on it.  The tokens in order become operations, and operations become groups:
neighbours that belong together are taken together, as many as there are.
-/

namespace FieldPipeline

def Token.joins (t next : Token) : Bool :=
  t.chainable && next.chainable && t.kind == next.kind && t.target == next.target

namespace Operation

def ofTokens? : List Token → Option Operation
  | [] => none
  | t :: rest => some {
    kind := t.kind
    target := t.target
    references := Expression.sortedNames ((t :: rest).flatMap (·.references))
    calls := (t :: rest).map (·.call)
    tokenIds := (t :: rest).map (·.id) }

def ofOrder (merging : Bool) (tokens : List Token) : List Operation :=
  (tokens.splitBy fun t next => merging && t.joins next).filterMap ofTokens?

/-- Whether the target of an operation must have a value: only an activator derives it from
elsewhere. -/
def requiresTarget (o : Operation) : Bool :=
  o.kind != .activator

def sameGuard (o other : Operation) : Bool :=
  o.target == other.target && o.references == other.references
    && o.requiresTarget == other.requiresTarget

end Operation

namespace Group

def ofOperations? : List Operation → Option Group
  | [] => none
  | o :: rest => some {
    target := o.target
    requiredFields := o.references
    requireTarget := o.requiresTarget
    operations := o :: rest }

def ofOrder (operations : List Operation) : List Group :=
  (operations.splitBy Operation.sameGuard).filterMap ofOperations?

end Group

namespace Token

def lastOn? (tokens : List Token) (field : String) : Option Token :=
  tokens.reverse.find? fun t => t.target = field

/-- The graph of some tokens in which each follows the one before it on the same field.
`before` holds the tokens that are in the graph already. -/
def chained (before : List Token) (g : Graph String) : List Token → Graph String
  | [] => g
  | t :: rest =>
    let registered := g.register t.id
    let g := match lastOn? before t.target with
      | some previous => (registered.addEdges previous.id [t.id]).1
      | none => registered
    chained (before ++ [t]) g rest

def addReads (tokens : List Token) (g : Graph String) (t : Token) : Graph String :=
  t.references.foldl (fun g field =>
    match lastOn? tokens field with
    | some last => (g.addEdges last.id [t.id]).1
    | none => g) g

def graph (tokens : List Token) : Graph String :=
  tokens.foldl (addReads tokens) (chained [] Graph.empty tokens)

def withId? (tokens : List Token) (id : String) : Option Token :=
  tokens.find? fun t => t.id = id

end Token

namespace Routine

def ofOrder (entity : String) (merging : Bool) (tokens : List Token) : Routine where
  entity
  groups := Group.ofOrder (Operation.ofOrder merging tokens)
  order := tokens.map (·.id)

def ofTokens (entity : String) (merging : Bool) (tokens : List Token) : Except Failure Routine :=
  match (Token.graph tokens).sort with
  | .ok order => .ok (ofOrder entity merging (order.filterMap (Token.withId? tokens)))
  | .error (.circular nodes) =>
    let fields := (nodes.filterMap (Token.withId? tokens)).map (·.target)
    .error (.declaration ⟨some entity, .circular nodes (Token.firstOccurrences fields)⟩)
  | .error (.unregistered _) => .error (.fault .missingKey)

end Routine

def Entity.compile (table : ModifierTable) (merging : Bool) (e : Entity) :
    Except Failure Routine := do
  Routine.ofTokens e.name merging (← e.tokens table)

/-- What became of entities that are compiled one by one, by their names. -/
structure Compilation where
  routines : List (String × Routine) := []
  errors : List (String × DeclarationError) := []
  /-- What is told about each failure. -/
  warnings : List String := []

namespace Compilation

def enter {α : Type} (name : String) (a : α) : List (String × α) → List (String × α)
  | [] => [(name, a)]
  | (key, b) :: rest => if key = name then (key, a) :: rest else (key, b) :: enter name a rest

def addRoutine (c : Compilation) (name : String) (r : Routine) : Compilation :=
  { c with routines := enter name r c.routines }

def addError (c : Compilation) (name : String) (e : DeclarationError) : Compilation :=
  { c with
    errors := enter name e c.errors
    warnings := c.warnings ++ ["Failed to compile " ++ name ++ ": " ++ e.message] }

def add (table : ModifierTable) (merging : Bool) (c : Compilation) (e : Entity) :
    Except Failure Compilation :=
  match e.compile table merging with
  | .ok r => .ok (c.addRoutine e.name r)
  | .error (.declaration error) => .ok (c.addError e.name error)
  | .error f => .error f

def ofEntities (table : ModifierTable) (merging : Bool) (es : List Entity) :
    Except Failure Compilation :=
  es.foldlM (add table merging) {}

end Compilation

end FieldPipeline
