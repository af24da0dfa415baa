import FieldPipeline.Fault
import FieldPipeline.Number.Numeral
import FieldPipeline.Value.Basic

/-!
The tokens of an expression.  Line ends inside brackets do not count; outside of them a line end
closes the expression.
-/

namespace FieldPipeline.Expression

open FieldPipeline.Number FieldPipeline.Text

structure Marks where
  raw : Bool
  bytes : Bool
  formatted : Bool
  deriving DecidableEq, Repr

inductive Token where
  | name (s : String)
  | word (s : String)
  | number (v : Value)
  | text (marks : Marks) (body : List Char)
  | sign (s : String)
  | lineEnd
  deriving Repr, Inhabited

namespace Token

def reserved : List String := [
  "False", "None", "True", "and", "as", "assert", "async", "await", "break", "class", "continue",
  "def", "del", "elif", "else", "except", "finally", "for", "from", "global", "if", "import", "in",
  "is", "lambda", "nonlocal", "not", "or", "pass", "raise", "return", "try", "while", "with",
  "yield"]

def signs : List String := [
  "**=", "//=", ">>=", "<<=", "...",
  "!=", "**", "//", "<<", "<=", "<>", "==", ">=", ">>", "->", ":=", "+=", "-=", "*=", "/=", "%=",
  "@=", "&=", "|=", "^=",
  "(", ")", "[", "]", "\x7b", "\x7d", ",", ":", ".", ";", "+", "-", "*", "/", "%", "@", "&", "|",
  "^", "~", "<", ">", "="]

def deepest : Nat := 200

def isNameChar (c : Char) : Bool :=
  c.isAlphanum || c == '_' || 128 ≤ c.toNat

def startsWith : List Char → List Char → Bool
  | [], _ => true
  | _ :: _, [] => false
  | w :: ws, c :: cs => w == c && startsWith ws cs

def wordsBehindNumber : List String := ["and", "else", "for", "if", "in", "is", "or", "not"]

def numberEnds (cs : List Char) : Bool :=
  match cs with
  | [] => true
  | c :: _ => !isNameChar c || wordsBehindNumber.any fun w => startsWith w.toList cs

/-- Digits with single underscores between them, without the underscores, and the rest; a text
that goes on with a misplaced underscore has none. -/
def digitRun (isOne : Char → Bool) : Nat → List Char → Option (List Char × List Char)
  | 0, _ => none
  | fuel + 1, cs =>
    let ds := cs.takeWhile isOne
    let rest := cs.drop ds.length
    if ds.isEmpty then none
    else match rest with
      | '_' :: more => (digitRun isOne fuel more).map fun (es, tail) => (ds ++ es, tail)
      | _ => some (ds, rest)

def digits? (cs : List Char) : Option (List Char × List Char) :=
  digitRun isDigit (cs.length + 1) cs

def basedNumber? (base : Nat) (cs : List Char) : Option (Value × List Char) := do
  let body := match cs with
    | '_' :: rest => rest
    | _ => cs
  let isOne (c : Char) : Bool := (digitIn? base c).isSome
  let (ds, rest) ← digitRun isOne (body.length + 1) body
  let value : Nat := ds.foldl (fun acc c => acc * base + (digitIn? base c).getD 0) 0
  if numberEnds rest then some (.int value, rest) else none

def exponent? (cs : List Char) : Option (Option Int × List Char) :=
  match cs with
  | mark :: rest =>
    if mark == 'e' || mark == 'E' then
      match rest with
      | first :: body =>
        if first == '+' || first == '-' then do
          let (ds, tail) ← digits? body
          let size : Int := digitsToNat ds
          some (some (if first == '-' then -size else size), tail)
        else if isDigit first then do
          let (ds, tail) ← digits? rest
          let size : Int := digitsToNat ds
          some (some size, tail)
        else some (none, cs)
      | [] => some (none, cs)
    else some (none, cs)
  | [] => some (none, [])

def decimalNumber? (cs : List Char) : Option (Value × List Char) := do
  let (whole, afterWhole) ← match cs with
    | '.' :: _ => some ([], cs)
    | _ => digits? cs
  let (pointed, fraction, afterFraction) ← match afterWhole with
    | '.' :: rest =>
      if rest.head?.any isDigit then (digits? rest).map fun (ds, tail) => (true, ds, tail)
      else some (true, [], rest)
    | _ => some (false, [], afterWhole)
  let (power, afterPower) ← exponent? afterFraction
  let real := ofDecimal false (digitsToNat (whole ++ fraction))
    (power.getD 0 - (fraction.length : Int))
  match afterPower with
  | mark :: rest =>
    if mark == 'j' || mark == 'J' then
      if numberEnds rest then some (.complex (Float.ofBits 0) real, rest) else none
    else if !numberEnds afterPower then none
    else finish whole pointed power real afterPower
  | [] => finish whole pointed power real []
where
  finish (whole : List Char) (pointed : Bool) (power : Option Int) (real : Float)
      (rest : List Char) : Option (Value × List Char) :=
    if pointed || power.isSome then some (.float real, rest)
    else if mostDigits < whole.length then none
    else if whole.head? == some '0' && whole.any (· != '0') then none
    else some (.int (digitsToNat whole), rest)

def number? (cs : List Char) : Option (Value × List Char) :=
  match cs with
  | '0' :: mark :: rest =>
    match prefixBase? mark with
    | some base => basedNumber? base rest
    | none => decimalNumber? cs
  | _ => decimalNumber? cs

def marks? (letters : List Char) : Option Marks :=
  match letters.map Char.toLower with
  | [] | ['u'] => some ⟨false, false, false⟩
  | ['r'] => some ⟨true, false, false⟩
  | ['b'] => some ⟨false, true, false⟩
  | ['f'] => some ⟨false, false, true⟩
  | ['b', 'r'] | ['r', 'b'] => some ⟨true, true, false⟩
  | ['f', 'r'] | ['r', 'f'] => some ⟨true, false, true⟩
  | _ => none

def textBody (mark : Char) (triple : Bool) : List Char → Option (List Char × List Char)
  | [] => none
  | ['\\'] => none
  | '\\' :: c :: rest => (textBody mark triple rest).map fun (b, t) => ('\\' :: c :: b, t)
  | c :: rest =>
    if c == mark then
      if !triple then some ([], rest)
      else if startsWith [mark, mark] rest then some ([], rest.drop 2)
      else (textBody mark triple rest).map fun (b, t) => (c :: b, t)
    else if c == '\n' && !triple then none
    else (textBody mark triple rest).map fun (b, t) => (c :: b, t)

def text? (cs : List Char) : Option (Except Fault (Token × List Char)) :=
  let letters := cs.takeWhile Char.isAlpha
  match cs.drop letters.length with
  | mark :: rest =>
    if mark == '"' || mark == '\'' then
      (marks? letters).map fun marks =>
        let triple := startsWith [mark, mark] rest
        match textBody mark triple (if triple then rest.drop 2 else rest) with
        | some (body, tail) => .ok (.text marks body, tail)
        | none => .error .badSyntax
    else none
  | [] => none

def name? (cs : List Char) : Option (Token × List Char) :=
  let run := cs.takeWhile isNameChar
  match run with
  | [] => none
  | c :: others =>
    if isIdentifierStart c && others.all isIdentifierPart then
      let s := String.ofList run
      some (if reserved.contains s then .word s else .name s, cs.drop run.length)
    else none

def sign? (cs : List Char) : Option (String × List Char) :=
  (signs.find? fun s => startsWith s.toList cs).map fun s => (s, cs.drop s.length)

def depthBehind (depth : Nat) (s : String) : Nat :=
  if s == "(" || s == "[" || s == "\x7b" then depth + 1
  else if s == ")" || s == "]" || s == "\x7d" then depth - 1
  else depth

def token (cs : List Char) : Except Fault (Token × List Char) :=
  match text? cs with
  | some found => found
  | none =>
    match name? cs with
    | some found => .ok found
    | none =>
      let startsNumber := match cs with
        | '.' :: c :: _ => isDigit c
        | c :: _ => isDigit c
        | [] => false
      if startsNumber then
        match number? cs with
        | some (v, rest) => .ok (.number v, rest)
        | none => .error .badSyntax
      else
        match sign? cs with
        | some (s, rest) => .ok (.sign s, rest)
        | none => .error .badSyntax

def skipComment (cs : List Char) : List Char :=
  cs.dropWhile (· != '\n')

def isMargin (c : Char) : Bool :=
  c == ' ' || c == '\t' || c == '\x0c'

/-- Whether the blanks at the start of a line indent it.  A form feed starts them anew. -/
def indents (margin : List Char) : Bool :=
  !((margin.reverse.takeWhile (· != '\x0c')).isEmpty)

/-- The tokens of a text, behind `depth` open brackets.  Every step uses up a character. -/
def scanFrom : Nat → Nat → List Char → Except Fault (List Token)
  | 0, _, _ => .error .badSyntax
  | fuel + 1, depth, cs =>
    match cs with
    | [] => .ok []
    | '\n' :: rest =>
      if depth == 0 then
        if rest.all isMargin && indents rest then .error .badSyntax
        else (scanFrom fuel depth rest).map (.lineEnd :: ·)
      else scanFrom fuel depth rest
    | '\\' :: rest =>
      match rest with
      | ['\n'] => .error .badSyntax
      | '\n' :: more => scanFrom fuel depth more
      | _ => .error .badSyntax
    | '#' :: rest => scanFrom fuel depth (skipComment rest)
    | c :: rest =>
      if isMargin c then scanFrom fuel depth rest
      else do
        let (t, tail) ← token cs
        let inside := match t with
          | .sign s => depthBehind depth s
          | _ => depth
        if deepest < inside then .error .badSyntax
        else (scanFrom fuel inside tail).map (t :: ·)

def dedent? : Nat → List Char → Option (List Char)
  | 0, _ => none
  | fuel + 1, cs =>
    let margin := cs.takeWhile isMargin
    let body := cs.drop margin.length
    let indented := indents margin
    match body with
    | [] => some []
    | '\n' :: rest => dedent? fuel rest
    | '#' :: rest =>
      match skipComment rest with
      | [] => some []
      | _ :: more => dedent? fuel more
    | '\\' :: '\n' :: rest =>
      if indented then none else dedent? fuel rest
    | _ => if indented then none else some body

def plainLines : List Char → List Char
  | [] => []
  | '\r' :: '\n' :: rest => '\n' :: plainLines rest
  | '\r' :: rest => '\n' :: plainLines rest
  | c :: rest => c :: plainLines rest

def scan (s : String) : Except Fault (List Token) :=
  let cs := plainLines s.toList
  match dedent? (cs.length + 1) cs with
  | some body => scanFrom (body.length + 1) 0 body
  | none => .error .badSyntax

end Token

end FieldPipeline.Expression
