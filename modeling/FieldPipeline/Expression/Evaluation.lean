import FieldPipeline.Expression.Builtin
import FieldPipeline.Expression.Check

/-!
Evaluating expressions over a record.  A name means the value of the field, or else a function of
the language; a call always means a function of the language.
-/

namespace FieldPipeline.Expression

/-- Why an expression has no value. -/
inductive Obstacle where
  | dunderName
  | unknownName (id : String)
  | dictSpread
  | unaryOperator (name : String)
  | binaryOperator (name : String)
  | indirectCall
  | function (id : String)
  | starredArgument
  | keywordSplat
  | element (name : String)
  | fault (f : Fault)
  deriving DecidableEq, Repr, Inhabited

abbrev Outcome := Except Obstacle Value

def lifted {α : Type} (r : Except Fault α) : Except Obstacle α :=
  r.mapError .fault

def lookUp (scope : Record) (id : String) : Outcome :=
  if isDunder id then .error .dunderName
  else match scope.get? id with
    | some v => .ok v
    | none =>
      match Builtin.named? id with
      | some f => .ok (.builtin f)
      | none =>
        match constantNamed? id with
        | some v => .ok v
        | none => .error (.unknownName id)

def UnaryOp.apply (op : UnaryOp) (v : Value) : Outcome :=
  match op with
  | .plus => lifted v.plus
  | .minus => lifted v.negate
  | .not => .ok (.bool (!v.isTrue))
  | .invert => .error (.unaryOperator "Invert")

def BinaryOp.apply (op : BinaryOp) (v w : Value) : Outcome :=
  match op with
  | .add => lifted (v.add w)
  | .sub => lifted (v.sub w)
  | .mul => lifted (v.mul w)
  | .div => lifted (v.div w)
  | .floorDiv => lifted (v.floorDiv w)
  | .mod => lifted (v.mod w)
  | .pow => lifted (v.pow w)
  | op => .error (.binaryOperator (op.refused?.getD ""))

def isInfixOf {α : Type} [BEq α] (part : List α) : List α → Bool
  | [] => part.isEmpty
  | x :: xs => part.isPrefixOf (x :: xs) || isInfixOf part xs

def foundIn (v : Value) : Value → Except Fault Bool
  | .text s =>
    match v with
    | .text t => .ok (isInfixOf t.toList s.toList)
    | _ => .error .wrongType
  | .bytes bs =>
    match v with
    | .bytes part => .ok (isInfixOf part bs)
    | v =>
      match v.asInt? with
      | some n => if 0 ≤ n && n < 256 then .ok (bs.contains (UInt8.ofNat n.toNat))
        else .error .badValue
      | none => .error .wrongType
  | .list xs | .tuple xs => .ok (v.member xs)
  | .set xs =>
    match v with
    | .set _ => .ok (v.member xs)
    | v => if v.isHashable then .ok (v.member xs) else .error .wrongType
  | .dict entries =>
    if v.isHashable then .ok (v.member (entries.map Prod.fst)) else .error .wrongType
  | _ => .error .wrongType

/-- Values of which there is only one each, so that equal ones are the same one. -/
def isUnique : Value → Bool
  | .null | .bool _ | .builtin _ | .ellipsis => true
  | .int n => -5 ≤ n && n ≤ 256
  | .text s =>
    match s.toList with
    | [] => true
    | [c] => c.toNat < 256
    | _ => false
  | .bytes bs => bs.length ≤ 1
  | .tuple xs => xs.isEmpty
  | _ => false

def sameKind : Value → Value → Bool
  | .bool _, .bool _ | .int _, .int _ => true
  | .bool _, _ | .int _, _ | _, .bool _ | _, .int _ => false
  | _, _ => true

def Expr.source? : Expr → Option String
  | .name id => some id
  | _ => none

/-- Whether two operands with these values are the same one. -/
def isIdentical (e f : Expr) (v w : Value) : Bool :=
  (isUnique v && isUnique w && sameKind v w && v.same w)
    || (match e.source?, f.source? with
      | some a, some b => a == b
      | _, _ => false)

def Comparison.holds (c : Comparison) (e f : Expr) (v w : Value) : Except Fault Bool :=
  match c with
  | .eq => .ok (v.same w)
  | .ne => .ok (!v.same w)
  | .lt => Value.relate .lt v w
  | .le => Value.relate .le v w
  | .gt => Value.relate .gt v w
  | .ge => Value.relate .ge v w
  | .isIn => foundIn v w
  | .notIn => (foundIn v w).map not
  | .same => .ok (isIdentical e f v w)
  | .notSame => .ok (!isIdentical e f v w)

def makeSet (xs : List Value) : Outcome :=
  if xs.all Value.isHashable then .ok (.set (Value.setOf xs)) else .error (.fault .wrongType)

mutual

def evaluate (scope : Record) : Expr → Outcome
  | .constant v => .ok v
  | .name id => lookUp scope id
  | .unary .invert _ => .error (.unaryOperator "Invert")
  | .unary op e => do
    let v ← evaluate scope e
    op.apply v
  | .binary op l r =>
    match op.refused? with
    | some name => .error (.binaryOperator name)
    | none => do
      let v ← evaluate scope l
      let w ← evaluate scope r
      op.apply v w
  | .all es => evaluateAll scope (.bool true) es
  | .any es => evaluateAny scope (.bool false) es
  | .compare first links => do
    let v ← evaluate scope first
    evaluateLinks scope first v links
  | .choice test yes no => do
    let t ← evaluate scope test
    if t.isTrue then evaluate scope yes else evaluate scope no
  | .call f args keywords =>
    match f with
    | .name id =>
      match Builtin.named? id with
      | none => .error (.function id)
      | some b => do
        let placed ← evaluateArguments scope args
        let named ← evaluateKeywords scope keywords
        lifted (b.call ⟨placed, named⟩)
    | _ => .error .indirectCall
  | .list es => (evaluateItems scope es).map .list
  | .tuple es => (evaluateItems scope es).map .tuple
  | .set es => do
    let xs ← evaluateItems scope es
    makeSet xs
  | .dict entries => (evaluateEntries scope [] entries).map .dict
  | .merged _ => .error .dictSpread
  | .starred _ => .error (.element "Starred")
  | .other element _ => .error (.element element)

def evaluateAll (scope : Record) (last : Value) : List Expr → Outcome
  | [] => .ok last
  | e :: es => do
    let v ← evaluate scope e
    if v.isTrue then evaluateAll scope v es else .ok v

def evaluateAny (scope : Record) (last : Value) : List Expr → Outcome
  | [] => .ok last
  | e :: es => do
    let v ← evaluate scope e
    if v.isTrue then .ok v else evaluateAny scope v es

def evaluateLinks (scope : Record) (left : Expr) (v : Value) : List (Comparison × Expr) → Outcome
  | [] => .ok (.bool true)
  | (c, e) :: rest => do
    let w ← evaluate scope e
    let holds ← lifted (c.holds left e v w)
    if holds then evaluateLinks scope e w rest else .ok (.bool false)

def evaluateItems (scope : Record) : List Expr → Except Obstacle (List Value)
  | [] => .ok []
  | e :: es => do
    let v ← evaluate scope e
    let vs ← evaluateItems scope es
    .ok (v :: vs)

def evaluateEntries (scope : Record) (acc : List (Value × Value)) :
    List (Expr × Expr) → Except Obstacle (List (Value × Value))
  | [] => .ok acc
  | (k, v) :: rest => do
    let key ← evaluate scope k
    let value ← evaluate scope v
    if key.isHashable then evaluateEntries scope (Value.putEntry key value acc) rest
    else .error (.fault .wrongType)

def evaluateArguments (scope : Record) : List Expr → Except Obstacle (List Value)
  | [] => .ok []
  | .starred _ :: _ => .error .starredArgument
  | e :: es => do
    let v ← evaluate scope e
    let vs ← evaluateArguments scope es
    .ok (v :: vs)

def evaluateKeywords (scope : Record) : List (Option String × Expr) → Except Obstacle Record
  | [] => .ok []
  | (none, _) :: _ => .error .keywordSplat
  | (some name, e) :: rest => do
    let v ← evaluate scope e
    let others ← evaluateKeywords scope rest
    .ok (if others.has name then others else (name, v) :: others)

end

end FieldPipeline.Expression
