import FieldPipeline.Expression.Token
import FieldPipeline.Text.CharacterName

/-!
The contents of text literals: escapes are replaced by the characters they stand for, and
formatted literals are cut into their texts and their inner expressions.
-/

namespace FieldPipeline.Expression.Literal

open FieldPipeline.Number FieldPipeline.Text

/-- The character of a code point; a lone half of a pair is replaced. -/
def character? (point : Nat) : Option Char :=
  if 0x10FFFF < point then none
  else if 0xD800 ≤ point && point < 0xE000 then some (Char.ofNat 0xFFFD)
  else some (Char.ofNat point)

def simpleEscape? (c : Char) : Option Char :=
  match c with
  | '\\' => some '\\'
  | '\'' => some '\''
  | '"' => some '"'
  | 'a' => some '\x07'
  | 'b' => some '\x08'
  | 'f' => some '\x0c'
  | 'n' => some '\n'
  | 'r' => some '\r'
  | 't' => some '\t'
  | 'v' => some '\x0b'
  | _ => none

def fixedHex? : Nat → Nat → List Char → Option (Nat × List Char)
  | 0, acc, cs => some (acc, cs)
  | width + 1, acc, c :: rest => do
    let d ← digitIn? 16 c
    fixedHex? width (acc * 16 + d) rest
  | _ + 1, _, [] => none

def octal : Nat → Nat → List Char → Nat × List Char
  | 0, acc, cs => (acc, cs)
  | _, acc, [] => (acc, [])
  | most + 1, acc, c :: rest =>
    match digitIn? 8 c with
    | some d => octal most (acc * 8 + d) rest
    | none => (acc, c :: rest)

def named? (cs : List Char) : Option (Char × List Char) :=
  match cs with
  | '\x7b' :: rest => do
    let name := rest.takeWhile (· != '\x7d')
    let c ← characterNamed? name
    if name.length < rest.length then some (c, rest.drop (name.length + 1)) else none
  | _ => none

def textEscape? (cs : List Char) : Option (List Char × List Char) :=
  match cs with
  | [] => some (['\\'], [])
  | '\n' :: rest => some ([], rest)
  | 'x' :: rest => point (fixedHex? 2 0 rest)
  | 'u' :: rest => point (fixedHex? 4 0 rest)
  | 'U' :: rest => point (fixedHex? 8 0 rest)
  | 'N' :: rest => (named? rest).map fun (c, tail) => ([c], tail)
  | c :: rest =>
    match simpleEscape? c with
    | some e => some ([e], rest)
    | none =>
      if (digitIn? 8 c).isSome then point (some (octal 3 0 cs))
      else some (['\\', c], rest)
where
  point (found : Option (Nat × List Char)) : Option (List Char × List Char) := do
    let (n, tail) ← found
    let c ← character? n
    some ([c], tail)

def unescape : Nat → List Char → Option (List Char)
  | 0, _ => none
  | fuel + 1, cs =>
    match cs with
    | [] => some []
    | '\\' :: rest => do
      let (front, tail) ← textEscape? rest
      let others ← unescape fuel tail
      some (front ++ others)
    | c :: rest => (unescape fuel rest).map (c :: ·)

def text? (raw : Bool) (body : List Char) : Option (List Char) :=
  if raw then some body else unescape (body.length + 1) body

def byteEscape? (cs : List Char) : Option (List Nat × List Char) :=
  match cs with
  | [] => some ([92], [])
  | '\n' :: rest => some ([], rest)
  | 'x' :: rest => (fixedHex? 2 0 rest).map fun (n, tail) => ([n], tail)
  | c :: rest =>
    match simpleEscape? c with
    | some e => some ([e.toNat], rest)
    | none =>
      if (digitIn? 8 c).isSome then
        let (n, tail) := octal 3 0 cs
        some ([n % 256], tail)
      else some ([92, c.toNat], rest)

def unescapeBytes : Nat → List Char → Option (List Nat)
  | 0, _ => none
  | fuel + 1, cs =>
    match cs with
    | [] => some []
    | '\\' :: rest => do
      let (front, tail) ← byteEscape? rest
      let others ← unescapeBytes fuel tail
      some (front ++ others)
    | c :: rest => (unescapeBytes fuel rest).map (c.toNat :: ·)

def bytes? (raw : Bool) (body : List Char) : Option (List UInt8) :=
  if body.any fun c => 128 ≤ c.toNat then none
  else
    let numbers := if raw then some (body.map Char.toNat) else unescapeBytes (body.length + 1) body
    numbers.map fun ns => ns.map UInt8.ofNat

/-- The plain text at the start of a formatted literal, in reverse in front of `acc`, and the
rest.  Inside a format, braces are not doubled. -/
def formattedText (raw inside : Bool) : Nat → List Char → List Char → Option (List Char × List Char)
  | 0, _, _ => none
  | fuel + 1, acc, cs =>
    match cs with
    | [] => some (acc, [])
    | '\\' :: c :: rest =>
      if raw then formattedText raw inside fuel ('\\' :: acc) (c :: rest)
      else if c == 'N' then
        match rest with
        | '\x7b' :: more =>
          let name := more.takeWhile (· != '\x7d')
          let tail := more.drop (name.length + 1)
          let close := if name.length < more.length then ['\x7d'] else []
          formattedText raw inside fuel
            (close ++ name.reverse ++ ['\x7b', 'N', '\\'] ++ acc) tail
        | _ => formattedText raw inside fuel ('N' :: '\\' :: acc) rest
      else if c == '\x7b' || c == '\x7d' then
        formattedText raw inside fuel ('\\' :: acc) (c :: rest)
      else formattedText raw inside fuel (c :: '\\' :: acc) rest
    | '\x7b' :: rest =>
      match rest with
      | '\x7b' :: more =>
        if inside then some (acc, cs) else formattedText raw inside fuel ('\x7b' :: acc) more
      | _ => some (acc, cs)
    | '\x7d' :: rest =>
      if inside then some (acc, cs)
      else match rest with
        | '\x7d' :: more => formattedText raw inside fuel ('\x7d' :: acc) more
        | _ => none
    | c :: rest => formattedText raw inside fuel (c :: acc) rest

structure InnerState where
  quote : Option (Char × Bool)
  brackets : List Char

def closes (opening closing : Char) : Bool :=
  (opening == '(' && closing == ')') || (opening == '[' && closing == ']')
    || (opening == '\x7b' && closing == '\x7d')

def innerText : Nat → InnerState → List Char → Option (List Char × List Char)
  | 0, _, _ => none
  | fuel + 1, state, cs =>
    match cs with
    | [] => none
    | c :: rest =>
      if c == '\\' then none
      else match state.quote with
        | some (mark, triple) =>
          if c == mark then
            if triple then
              if Token.startsWith [mark, mark] rest then
                (innerText fuel { state with quote := none } (rest.drop 2)).map
                  fun (b, t) => (c :: c :: c :: b, t)
              else (innerText fuel state rest).map fun (b, t) => (c :: b, t)
            else (innerText fuel { state with quote := none } rest).map fun (b, t) => (c :: b, t)
          else (innerText fuel state rest).map fun (b, t) => (c :: b, t)
        | none =>
          if c == '\'' || c == '"' then
            if Token.startsWith [c, c] rest then
              (innerText fuel { state with quote := some (c, true) } (rest.drop 2)).map
                fun (b, t) => (c :: c :: c :: b, t)
            else
              (innerText fuel { state with quote := some (c, false) } rest).map
                fun (b, t) => (c :: b, t)
          else if c == '(' || c == '[' || c == '\x7b' then
            (innerText fuel { state with brackets := c :: state.brackets } rest).map
              fun (b, t) => (c :: b, t)
          else if c == '#' then none
          else if state.brackets.isEmpty && ['!', ':', '\x7d', '=', '<', '>'].contains c then
            if rest.head? == some '=' && ['!', '=', '<', '>'].contains c then
              (innerText fuel state (rest.drop 1)).map fun (b, t) => (c :: '=' :: b, t)
            else if c == '<' || c == '>' then
              (innerText fuel state rest).map fun (b, t) => (c :: b, t)
            else some ([], cs)
          else if c == ')' || c == ']' || c == '\x7d' then
            match state.brackets with
            | opening :: others =>
              if closes opening c then
                (innerText fuel { state with brackets := others } rest).map
                  fun (b, t) => (c :: b, t)
              else none
            | [] => none
          else (innerText fuel state rest).map fun (b, t) => (c :: b, t)

def skipEcho (cs : List Char) : List Char :=
  match cs with
  | '=' :: rest => rest.dropWhile isSpacing
  | _ => cs

def skipConversion? (cs : List Char) : Option (List Char) :=
  match cs with
  | '!' :: mark :: rest => if mark == 's' || mark == 'r' || mark == 'a' then some rest else none
  | ['!'] => none
  | _ => some cs

mutual

/-- The inner expressions of a formatted literal, and the rest behind it.  Formats may hold
expressions of their own, but only one level deep. -/
def innerFrom (raw : Bool) : Nat → Nat → List Char → Option (List (List Char) × List Char)
  | 0, _, _ => none
  | fuel + 1, level, cs => do
    let (front, rest) ← formattedText raw (0 < level) (cs.length + 1) [] cs
    let _ ← text? raw front.reverse
    match rest with
    | '\x7b' :: body =>
      let (found, tail) ← field raw fuel level body
      let (others, tail) ← innerFrom raw fuel level tail
      some (found ++ others, tail)
    | _ => some ([], rest)

def field (raw : Bool) : Nat → Nat → List Char → Option (List (List Char) × List Char)
  | 0, _, _ => none
  | fuel + 1, level, cs =>
    if 2 ≤ level then none
    else do
      let (body, rest) ← innerText (cs.length + 1) ⟨none, []⟩ cs
      let rest ← skipConversion? (skipEcho rest)
      match rest with
      | ':' :: format => do
        let (inner, tail) ← innerFrom raw fuel (level + 1) format
        match tail with
        | '\x7d' :: more => some (body :: inner, more)
        | _ => none
      | '\x7d' :: more => some ([body], more)
      | _ => none

end

def inner? (raw : Bool) (body : List Char) : Option (List (List Char)) := do
  let (found, rest) ← innerFrom raw (2 * body.length + 2) 0 body
  if rest.isEmpty then some found else none

end FieldPipeline.Expression.Literal
