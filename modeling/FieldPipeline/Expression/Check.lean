import FieldPipeline.Expression.Parser

/-!
What an expression may not contain, and the fields that it reads.  The first fault is the one
that is met first when the tree is walked level by level.
-/

namespace FieldPipeline.Expression

/-- A place in a tree: an expression, or an argument of a call that is passed by name. -/
inductive Node where
  | expr (e : Expr)
  | keyword (e : Expr)
  deriving Repr, Inhabited

def Node.children : Node → List Node
  | .keyword e => [.expr e]
  | .expr e =>
    match e with
    | .constant _ | .name _ => []
    | .unary _ e | .starred e => [.expr e]
    | .binary _ l r => [.expr l, .expr r]
    | .all es | .any es | .list es | .tuple es | .set es | .merged es | .other _ es => es.map .expr
    | .compare first links => .expr first :: links.map fun l => .expr l.2
    | .choice test yes no => [.expr test, .expr yes, .expr no]
    | .call f args keywords =>
      .expr f :: (args.map .expr ++ keywords.map fun k => .keyword k.2)
    | .dict entries => (entries.map fun e => .expr e.1) ++ entries.map fun e => .expr e.2

inductive Problem where
  | empty
  | syntaxFault
  | element (name : String)
  | dunderName
  | operator (name : String)
  | dictSpread
  | indirectCall
  | function (name : String)
  | starredArgument
  | keywordSplat
  | unreadable (fault : Fault)
  deriving DecidableEq, Repr

def Problem.message : Problem → String
  | .empty => "expression is empty"
  | .syntaxFault => "invalid Python syntax"
  | .element name => "unsupported expression element: " ++ name
  | .dunderName => "expression may not reference dunder names"
  | .operator name => "operator not allowed: " ++ name
  | .dictSpread => "dict unpacking is not allowed"
  | .indirectCall => "function calls must be direct names"
  | .function name => "function '" ++ name ++ "' is not allowed"
  | .starredArgument => "star-args are not allowed"
  | .keywordSplat => "keyword splats are not allowed"
  | .unreadable fault => fault.text

def isDunder (id : String) : Bool :=
  id.toList.take 2 == ['_', '_']

def callProblem? (f : Expr) (args : List Expr) (keywords : List (Option String × Expr)) :
    Option Problem :=
  match f with
  | .name id =>
    if (Builtin.named? id).isNone then some (.function id)
    else if args.any Parser.isStarred then some .starredArgument
    else if keywords.any fun k => k.1.isNone then some .keywordSplat
    else none
  | _ => some .indirectCall

def Node.problem? : Node → Option Problem
  | .keyword _ => none
  | .expr e =>
    match e with
    | .name id => if isDunder id then some .dunderName else none
    | .binary op _ _ => op.refused?.map .operator
    | .merged _ => some .dictSpread
    | .call f args keywords => callProblem? f args keywords
    | .starred _ => some (.element "Starred")
    | .other element _ => some (.element element)
    | _ => none

def levels : Nat → List Node → List Node
  | 0, _ => []
  | n + 1, nodes => nodes ++ levels n (nodes.flatMap Node.children)

def Expr.nodes (e : Expr) : List Node :=
  levels e.height [.expr e]

def Expr.problem? (e : Expr) : Option Problem :=
  e.nodes.findSome? Node.problem?

def Node.name? : Node → Option String
  | .expr (.name id) => some id
  | _ => none

def isReservedName (id : String) : Bool :=
  (Builtin.named? id).isSome || (constantNamed? id).isSome

def insertName (name : String) : List String → List String
  | [] => [name]
  | other :: rest =>
    if name = other then other :: rest
    else if name < other then name :: other :: rest
    else other :: insertName name rest

def sortedNames (names : List String) : List String :=
  names.foldl (fun acc n => insertName n acc) []

def Expr.references (e : Expr) : List String :=
  sortedNames ((e.nodes.filterMap Node.name?).filter
    fun id => !isReservedName id && id != valueName)

def problem? (text : String) : Option Problem :=
  if text.isEmpty then some .empty
  else match parse text with
    | .error .badSyntax => some .syntaxFault
    | .error fault => some (.unreadable fault)
    | .ok e => e.problem?

def references (text : String) : Except Fault (List String) :=
  (parse text).map Expr.references

end FieldPipeline.Expression
