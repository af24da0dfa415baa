import FieldPipeline.Expression.Basic
import FieldPipeline.Expression.Literal

/-!
Reading expressions from tokens.  Every function takes tokens and gives a tree and the tokens
behind it.  The fuel bounds how deep the calls are nested; a few steps for every token are
enough.
-/

namespace FieldPipeline.Expression

open FieldPipeline.Text

abbrev Read (α : Type) := α × List Token

namespace Parser

def bad {α : Type} : Except Fault α :=
  .error .badSyntax

def expect (sign : String) : List Token → Except Fault (List Token)
  | .sign s :: rest => if s == sign then .ok rest else bad
  | _ => bad

def expectWord (word : String) : List Token → Except Fault (List Token)
  | .word w :: rest => if w == word then .ok rest else bad
  | _ => bad

def take? (sign : String) : List Token → Option (List Token)
  | .sign s :: rest => if s == sign then some rest else none
  | _ => none

def takeWord? (word : String) : List Token → Option (List Token)
  | .word w :: rest => if w == word then some rest else none
  | _ => none

def startsClause (ts : List Token) : Bool :=
  (takeWord? "for" ts).isSome || (takeWord? "async" ts).isSome

def isStarred : Expr → Bool
  | .starred _ => true
  | _ => false

/-- The binary operators by how closely they bind, the loosest first. -/
def operatorAt? (level : Nat) (sign : String) : Option BinaryOp :=
  match level, sign with
  | 0, "|" => some .bitOr
  | 1, "^" => some .bitXor
  | 2, "&" => some .bitAnd
  | 3, "<<" => some .leftShift
  | 3, ">>" => some .rightShift
  | 4, "+" => some .add
  | 4, "-" => some .sub
  | 5, "*" => some .mul
  | 5, "/" => some .div
  | 5, "//" => some .floorDiv
  | 5, "%" => some .mod
  | 5, "@" => some .matMult
  | _, _ => none

def comparison? : List Token → Option (Comparison × List Token)
  | .sign s :: rest =>
    match s with
    | "==" => some (.eq, rest)
    | "!=" => some (.ne, rest)
    | "<" => some (.lt, rest)
    | "<=" => some (.le, rest)
    | ">" => some (.gt, rest)
    | ">=" => some (.ge, rest)
    | _ => none
  | .word "in" :: rest => some (.isIn, rest)
  | .word "not" :: .word "in" :: rest => some (.notIn, rest)
  | .word "is" :: .word "not" :: rest => some (.notSame, rest)
  | .word "is" :: rest => some (.same, rest)
  | _ => none

mutual

def isTarget : Expr → Bool
  | .name _ => true
  | .other element _ => element == "Attribute" || element == "Subscript"
  | .list items | .tuple items => areTargets items
  | _ => false

def areTargets : List Expr → Bool
  | [] => true
  | .starred e :: rest => isTarget e && areTargets rest
  | e :: rest => isTarget e && areTargets rest

end

def spanTexts : List Token → List (Marks × List Char) × List Token
  | .text marks body :: rest =>
    let (others, tail) := spanTexts rest
    ((marks, body) :: others, tail)
  | ts => ([], ts)

def plainLiteral (parts : List (Marks × List Char)) : Except Fault Value :=
  if parts.all fun p => p.1.bytes then
    match parts.mapM fun p => Literal.bytes? p.1.raw p.2 with
    | some bs => .ok (.bytes bs.flatten)
    | none => bad
  else
    match parts.mapM fun p => Literal.text? p.1.raw p.2 with
    | some cs => .ok (.text (String.ofList cs.flatten))
    | none => bad

structure Parameters where
  any : Bool
  defaulted : Bool
  slash : Bool
  star : Bool
  bareStar : Bool

inductive Stage where
  | positional | keyword | splat
  deriving DecidableEq

def isBlankText (cs : List Char) : Bool :=
  cs.all fun c => c == ' ' || c == '\t' || c == '\n' || c == '\x0c' || c == '\r'

/-- A mapping display; an entry without a key takes in a mapping. -/
def dictOf (entries : List (Option Expr × Expr)) : Expr :=
  match entries.mapM fun e => e.1.map fun k => (k, e.2) with
  | some es => .dict es
  | none => .merged (entries.filterMap Prod.fst ++ entries.map Prod.snd)

mutual

def expression : Nat → List Token → Except Fault (Read Expr)
  | 0, _ => bad
  | n + 1, ts =>
    match takeWord? "lambda" ts with
    | some rest => do
      let (defaults, rest) ← parameters n ⟨false, false, false, false, false⟩ rest
      let (body, rest) ← expression n rest
      .ok (.other "Lambda" (defaults ++ [body]), rest)
    | none => do
      let (yes, rest) ← disjunction n ts
      match takeWord? "if" rest with
      | none => .ok (yes, rest)
      | some rest => do
        let (test, rest) ← disjunction n rest
        let rest ← expectWord "else" rest
        let (no, rest) ← expression n rest
        .ok (.choice test yes no, rest)

def named : Nat → List Token → Except Fault (Read Expr)
  | 0, _ => bad
  | n + 1, ts =>
    match ts with
    | .name id :: .sign ":=" :: rest => do
      let (e, rest) ← expression n rest
      .ok (.other "NamedExpr" [.name id, e], rest)
    | _ => expression n ts

def starredNamed : Nat → List Token → Except Fault (Read Expr)
  | 0, _ => bad
  | n + 1, ts =>
    match take? "*" ts with
    | some rest => do
      let (e, rest) ← arithmetic n 0 rest
      .ok (.starred e, rest)
    | none => named n ts

def disjunction : Nat → List Token → Except Fault (Read Expr)
  | 0, _ => bad
  | n + 1, ts => do
    let (first, rest) ← conjunction n ts
    let (others, rest) ← moreDisjuncts n rest
    .ok (if others.isEmpty then first else .any (first :: others), rest)

def moreDisjuncts : Nat → List Token → Except Fault (Read (List Expr))
  | 0, _ => bad
  | n + 1, ts =>
    match takeWord? "or" ts with
    | some rest => do
      let (e, rest) ← conjunction n rest
      let (es, rest) ← moreDisjuncts n rest
      .ok (e :: es, rest)
    | none => .ok ([], ts)

def conjunction : Nat → List Token → Except Fault (Read Expr)
  | 0, _ => bad
  | n + 1, ts => do
    let (first, rest) ← inversion n ts
    let (others, rest) ← moreConjuncts n rest
    .ok (if others.isEmpty then first else .all (first :: others), rest)

def moreConjuncts : Nat → List Token → Except Fault (Read (List Expr))
  | 0, _ => bad
  | n + 1, ts =>
    match takeWord? "and" ts with
    | some rest => do
      let (e, rest) ← inversion n rest
      let (es, rest) ← moreConjuncts n rest
      .ok (e :: es, rest)
    | none => .ok ([], ts)

def inversion : Nat → List Token → Except Fault (Read Expr)
  | 0, _ => bad
  | n + 1, ts =>
    match takeWord? "not" ts with
    | some rest => do
      let (e, rest) ← inversion n rest
      .ok (.unary .not e, rest)
    | none => do
      let (first, rest) ← arithmetic n 0 ts
      let (links, rest) ← comparisons n rest
      .ok (if links.isEmpty then first else .compare first links, rest)

def comparisons : Nat → List Token → Except Fault (Read (List (Comparison × Expr)))
  | 0, _ => bad
  | n + 1, ts =>
    match comparison? ts with
    | some (c, rest) => do
      let (e, rest) ← arithmetic n 0 rest
      let (links, rest) ← comparisons n rest
      .ok ((c, e) :: links, rest)
    | none => .ok ([], ts)

def arithmetic : Nat → Nat → List Token → Except Fault (Read Expr)
  | 0, _, _ => bad
  | n + 1, level, ts =>
    if 6 ≤ level then factor n ts
    else do
      let (left, rest) ← arithmetic n (level + 1) ts
      moreArithmetic n level left rest

def moreArithmetic : Nat → Nat → Expr → List Token → Except Fault (Read Expr)
  | 0, _, _, _ => bad
  | n + 1, level, left, ts =>
    match ts with
    | .sign s :: rest =>
      match operatorAt? level s with
      | some op => do
        let (right, rest) ← arithmetic n (level + 1) rest
        moreArithmetic n level (.binary op left right) rest
      | none => .ok (left, ts)
    | _ => .ok (left, ts)

def factor : Nat → List Token → Except Fault (Read Expr)
  | 0, _ => bad
  | n + 1, ts =>
    let signed (op : UnaryOp) (rest : List Token) : Except Fault (Read Expr) := do
      let (e, rest) ← factor n rest
      .ok (.unary op e, rest)
    match ts with
    | .sign "+" :: rest => signed .plus rest
    | .sign "-" :: rest => signed .minus rest
    | .sign "~" :: rest => signed .invert rest
    | _ => do
      let (base, rest) ← awaited n ts
      match take? "**" rest with
      | some rest => do
        let (e, rest) ← factor n rest
        .ok (.binary .pow base e, rest)
      | none => .ok (base, rest)

def awaited : Nat → List Token → Except Fault (Read Expr)
  | 0, _ => bad
  | n + 1, ts =>
    match takeWord? "await" ts with
    | some rest => do
      let (e, rest) ← primary n rest
      .ok (.other "Await" [e], rest)
    | none => primary n ts

def primary : Nat → List Token → Except Fault (Read Expr)
  | 0, _ => bad
  | n + 1, ts => do
    let (e, rest) ← atom n ts
    suffixes n e rest

def suffixes : Nat → Expr → List Token → Except Fault (Read Expr)
  | 0, _, _ => bad
  | n + 1, e, ts =>
    match ts with
    | .sign "." :: .name _ :: rest => suffixes n (.other "Attribute" [e]) rest
    | .sign "(" :: rest => do
      let ((args, keywords), rest) ← arguments n .positional true rest
      suffixes n (.call e args keywords) rest
    | .sign "[" :: rest => do
      let (parts, rest) ← subscripts n rest
      suffixes n (.other "Subscript" (e :: parts)) rest
    | .sign "." :: _ => bad
    | _ => .ok (e, ts)

def arguments : Nat → Stage → Bool → List Token →
    Except Fault (Read (List Expr × List (Option String × Expr)))
  | 0, _, _, _ => bad
  | n + 1, stage, first, ts =>
    let more (stage : Stage) (rest : List Token) :
        Except Fault (Read (List Expr × List (Option String × Expr))) :=
      match take? "," rest with
      | some rest => arguments n stage false rest
      | none => do
        let rest ← expect ")" rest
        .ok (([], []), rest)
    match ts with
    | .sign ")" :: rest => .ok (([], []), rest)
    | .sign "*" :: rest =>
      if stage == .splat then bad
      else do
        let (e, rest) ← expression n rest
        let ((args, keywords), rest) ← more stage rest
        .ok ((.starred e :: args, keywords), rest)
    | .sign "**" :: rest => do
      let (e, rest) ← expression n rest
      let ((args, keywords), rest) ← more .splat rest
      .ok ((args, (none, e) :: keywords), rest)
    | .name id :: .sign "=" :: rest => do
      let (e, rest) ← expression n rest
      let next := if stage == .splat then .splat else .keyword
      let ((args, keywords), rest) ← more next rest
      .ok ((args, (some id, e) :: keywords), rest)
    | _ =>
      if stage == .positional then do
        let (e, rest) ← named n ts
        if first && startsClause rest then do
          let (parts, rest) ← clauses n rest
          let rest ← expect ")" rest
          .ok (([.other "GeneratorExp" (e :: parts)], []), rest)
        else do
          let ((args, keywords), rest) ← more stage rest
          .ok ((e :: args, keywords), rest)
      else bad

def subscripts : Nat → List Token → Except Fault (Read (List Expr))
  | 0, _ => bad
  | n + 1, ts => do
    let (parts, rest) ← subscript n ts
    match take? "," rest with
    | some rest =>
      match take? "]" rest with
      | some rest => .ok (parts, rest)
      | none => do
        let (others, rest) ← subscripts n rest
        .ok (parts ++ others, rest)
    | none => do
      let rest ← expect "]" rest
      .ok (parts, rest)

def subscript : Nat → List Token → Except Fault (Read (List Expr))
  | 0, _ => bad
  | n + 1, ts =>
    match ts with
    | .sign "*" :: rest => do
      let (e, rest) ← expression n rest
      .ok ([.starred e], rest)
    | .sign ":" :: _ => bounds n 2 ts
    | .name _ :: .sign ":=" :: _ => do
      let (e, rest) ← named n ts
      .ok ([e], rest)
    | _ => do
      let (e, rest) ← expression n ts
      let (others, rest) ← bounds n 2 rest
      .ok (e :: others, rest)

def bounds : Nat → Nat → List Token → Except Fault (Read (List Expr))
  | 0, _, _ => bad
  | n + 1, most, ts =>
    match take? ":" ts with
    | none => .ok ([], ts)
    | some rest =>
      if most == 0 then bad
      else match rest with
        | .sign ":" :: _ | .sign "]" :: _ | .sign "," :: _ => bounds n (most - 1) rest
        | _ => do
          let (e, rest) ← expression n rest
          let (others, rest) ← bounds n (most - 1) rest
          .ok (e :: others, rest)

def atom : Nat → List Token → Except Fault (Read Expr)
  | 0, _ => bad
  | n + 1, ts =>
    match ts with
    | .name id :: rest => .ok (.name id, rest)
    | .number v :: rest => .ok (.constant v, rest)
    | .word w :: rest =>
      match constantNamed? w with
      | some v => .ok (.constant v, rest)
      | none => bad
    | .text _ _ :: _ => texts n ts
    | .sign "..." :: rest => .ok (.constant .ellipsis, rest)
    | .sign "(" :: rest => group n rest
    | .sign "[" :: rest => listDisplay n rest
    | .sign "\x7b" :: rest => braces n rest
    | _ => bad

def group : Nat → List Token → Except Fault (Read Expr)
  | 0, _ => bad
  | n + 1, ts =>
    match ts with
    | .sign ")" :: rest => .ok (.tuple [], rest)
    | .word "yield" :: .word "from" :: rest => do
      let (e, rest) ← expression n rest
      let rest ← expect ")" rest
      .ok (.other "YieldFrom" [e], rest)
    | .word "yield" :: rest => do
      let (es, rest) ← yielded n rest
      let rest ← expect ")" rest
      .ok (.other "Yield" es, rest)
    | _ => do
      let (first, rest) ← starredNamed n ts
      if startsClause rest && !isStarred first then do
        let (parts, rest) ← clauses n rest
        let rest ← expect ")" rest
        .ok (.other "GeneratorExp" (first :: parts), rest)
      else match rest with
        | .sign ")" :: rest => if isStarred first then bad else .ok (first, rest)
        | _ => do
          let (others, rest) ← items n ")" rest
          .ok (.tuple (first :: others), rest)

def yielded : Nat → List Token → Except Fault (Read (List Expr))
  | 0, _ => bad
  | n + 1, ts =>
    match ts with
    | .sign ")" :: _ => .ok ([], ts)
    | _ => do
      let (e, rest) ← match take? "*" ts with
        | some rest => arithmetic n 0 rest
        | none => expression n ts
      match take? "," rest with
      | some rest => do
        let (es, rest) ← yielded n rest
        .ok (e :: es, rest)
      | none => .ok ([e], rest)

def items : Nat → String → List Token → Except Fault (Read (List Expr))
  | 0, _, _ => bad
  | n + 1, closing, ts =>
    match take? closing ts with
    | some rest => .ok ([], rest)
    | none => do
      let rest ← expect "," ts
      match take? closing rest with
      | some rest => .ok ([], rest)
      | none => do
        let (e, rest) ← starredNamed n rest
        let (es, rest) ← items n closing rest
        .ok (e :: es, rest)

def listDisplay : Nat → List Token → Except Fault (Read Expr)
  | 0, _ => bad
  | n + 1, ts =>
    match take? "]" ts with
    | some rest => .ok (.list [], rest)
    | none => do
      let (first, rest) ← starredNamed n ts
      if startsClause rest && !isStarred first then do
        let (parts, rest) ← clauses n rest
        let rest ← expect "]" rest
        .ok (.other "ListComp" (first :: parts), rest)
      else do
        let (others, rest) ← items n "]" rest
        .ok (.list (first :: others), rest)

def braces : Nat → List Token → Except Fault (Read Expr)
  | 0, _ => bad
  | n + 1, ts =>
    match ts with
    | .sign "\x7d" :: rest => .ok (.dict [], rest)
    | .sign "**" :: _ => do
      let (es, rest) ← entries n ts
      .ok (dictOf es, rest)
    | _ => do
      let (first, rest) ← starredNamed n ts
      let isPlain := match ts with
        | .name _ :: .sign ":=" :: _ | .sign "*" :: _ => false
        | _ => true
      match take? ":" rest with
      | some afterColon =>
        if !isPlain then bad
        else do
          let (v, afterValue) ← expression n afterColon
          if startsClause afterValue then do
            let (parts, rest) ← clauses n afterValue
            let rest ← expect "\x7d" rest
            .ok (.other "DictComp" (first :: v :: parts), rest)
          else do
            let (es, rest) ← entries n ts
            .ok (dictOf es, rest)
      | none =>
        if startsClause rest && !isStarred first then do
          let (parts, rest) ← clauses n rest
          let rest ← expect "\x7d" rest
          .ok (.other "SetComp" (first :: parts), rest)
        else do
          let (others, rest) ← items n "\x7d" rest
          .ok (.set (first :: others), rest)

def entries : Nat → List Token → Except Fault (Read (List (Option Expr × Expr)))
  | 0, _ => bad
  | n + 1, ts => do
    let (e, rest) ← match take? "**" ts with
      | some rest => do
        let (v, rest) ← arithmetic n 0 rest
        .ok ((none, v), rest)
      | none => do
        let (k, rest) ← expression n ts
        let rest ← expect ":" rest
        let (v, rest) ← expression n rest
        .ok ((some k, v), rest)
    match rest with
    | .sign "\x7d" :: rest => .ok ([e], rest)
    | .sign "," :: .sign "\x7d" :: rest => .ok ([e], rest)
    | .sign "," :: rest => do
      let (es, rest) ← entries n rest
      .ok (e :: es, rest)
    | _ => bad

def clauses : Nat → List Token → Except Fault (Read (List Expr))
  | 0, _ => bad
  | n + 1, ts => do
    let ts := (takeWord? "async" ts).getD ts
    let rest ← expectWord "for" ts
    let (bound, rest) ← targets n rest
    let rest ← expectWord "in" rest
    let (source, rest) ← disjunction n rest
    let (tests, rest) ← filters n rest
    if startsClause rest then do
      let (others, rest) ← clauses n rest
      .ok (bound ++ source :: tests ++ others, rest)
    else .ok (bound ++ source :: tests, rest)

def targets : Nat → List Token → Except Fault (Read (List Expr))
  | 0, _ => bad
  | n + 1, ts => do
    let (e, rest) ← primary n ((take? "*" ts).getD ts)
    if isTarget e then
      match take? "," rest with
      | some rest =>
        if (takeWord? "in" rest).isSome then .ok ([e], rest)
        else do
          let (es, rest) ← targets n rest
          .ok (e :: es, rest)
      | none => .ok ([e], rest)
    else bad

def filters : Nat → List Token → Except Fault (Read (List Expr))
  | 0, _ => bad
  | n + 1, ts =>
    match takeWord? "if" ts with
    | some rest => do
      let (e, rest) ← disjunction n rest
      let (es, rest) ← filters n rest
      .ok (e :: es, rest)
    | none => .ok ([], ts)

def parameters : Nat → Parameters → List Token → Except Fault (Read (List Expr))
  | 0, _, _ => bad
  | n + 1, p, ts =>
    let next (p : Parameters) (rest : List Token) : Except Fault (Read (List Expr)) :=
      match rest with
      | .sign ":" :: _ => parameters n p rest
      | .sign "," :: rest => parameters n p rest
      | _ => bad
    match ts with
    | .sign ":" :: rest => if p.bareStar then bad else .ok ([], rest)
    | .sign "/" :: rest =>
      if !p.any || p.slash || p.star then bad else next { p with slash := true } rest
    | .sign "**" :: .name _ :: rest =>
      if p.bareStar then bad
      else match rest with
        | .sign ":" :: rest => .ok ([], rest)
        | .sign "," :: .sign ":" :: rest => .ok ([], rest)
        | _ => bad
    | .sign "*" :: .name _ :: rest =>
      if p.star then bad else next { p with star := true } rest
    | .sign "*" :: .sign "," :: rest =>
      if p.star then bad else parameters n { p with star := true, bareStar := true } rest
    | .name _ :: .sign "=" :: rest => do
      let (e, rest) ← expression n rest
      let (es, rest) ← next { p with any := true, defaulted := true, bareStar := false } rest
      .ok (e :: es, rest)
    | .name _ :: rest =>
      if p.defaulted && !p.star then bad
      else next { p with any := true, bareStar := false } rest
    | _ => bad

def texts : Nat → List Token → Except Fault (Read Expr)
  | 0, _ => bad
  | n + 1, ts =>
    let (parts, rest) := spanTexts ts
    if (parts.any fun p => p.1.bytes) && (parts.any fun p => !p.1.bytes) then bad
    else if parts.any fun p => p.1.formatted then do
      let _ ← plainLiteral (parts.filter fun p => !p.1.formatted)
      let inner ← match (parts.filter fun p => p.1.formatted).mapM
          fun p => Literal.inner? p.1.raw p.2 with
        | some found => .ok found.flatten
        | none => bad
      let es ← insides n inner
      .ok (.other "JoinedStr" es, rest)
    else do
      let v ← plainLiteral parts
      .ok (.constant v, rest)

def insides : Nat → List (List Char) → Except Fault (List Expr)
  | _, [] => .ok []
  | 0, _ => bad
  | n + 1, body :: others =>
    if isBlankText body then bad
    else do
      let ts ← Token.scanFrom (body.length + 3) 0 ('(' :: body ++ [')'])
      let (e, rest) ← atom n ts
      if rest.isEmpty then do
        let es ← insides n others
        .ok (e :: es)
      else bad

end

def whole : Nat → List Token → Except Fault Expr
  | 0, _ => bad
  | n + 1, ts => do
    let (first, rest) ← expression n ts
    match take? "," rest with
    | none => if rest.all isEnd then .ok first else bad
    | some rest => do
      let others ← more n rest
      .ok (.tuple (first :: others))
where
  isEnd : Token → Bool
    | .lineEnd => true
    | _ => false
  more : Nat → List Token → Except Fault (List Expr)
    | 0, _ => bad
    | n + 1, ts =>
      if ts.all isEnd then .ok []
      else do
        let (e, rest) ← expression n ts
        match take? "," rest with
        | none => if rest.all isEnd then .ok [e] else bad
        | some rest => do
          let es ← more n rest
          .ok (e :: es)

end Parser

def mostLevels : Nat := 2900

def parse (s : String) : Except Fault Expr := do
  let ts ← Token.scan s
  let e ← Parser.whole (24 * (s.length + 2)) ts
  if mostLevels < e.height then .error .tooDeep else .ok e

end FieldPipeline.Expression
