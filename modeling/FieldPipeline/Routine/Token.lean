import FieldPipeline.Entity.Basic
import FieldPipeline.Routine.Basic

/-!
The tokens of an entity: every use of a modifier on a field, with the fields that it reads.
A use reads the fields that stand as references among its arguments, those that it names
besides, and those that occur in its expressions.
-/

namespace FieldPipeline

namespace Token

def idOf (target : String) (position : Nat) (name : String) : String :=
  target ++ "~" ++ toString position ++ ":" ++ name

def namedFields (u : ModifierUse) : List String :=
  (u.args.filterMap fun
    | .fieldRef name => some name
    | _ => none) ++ u.alsoReads

def textArg? (u : ModifierUse) (place : Nat) : Option String :=
  match u.args[place]? with
  | some (Value.text s) => some s
  | _ => none

/-- The texts that stand where expressions are expected; `none` when one is missing. -/
def expressionArgs? (u : ModifierUse) (places : List Nat) : Option (List String) :=
  places.mapM (textArg? u)

def firstOccurrences (names : List String) : List String :=
  names.foldl (fun acc n => if acc.contains n then acc else acc ++ [n]) []

def readBy (entity : String) (u : ModifierUse) (target text : String) :
    Except Failure (List String) :=
  match Expression.problem? text with
  | some (.unreadable fault) => .error (.fault fault)
  | some problem =>
    .error (.declaration ⟨some entity, .badExpression text u.name target problem⟩)
  | none => do
    let names ← (Expression.references text).mapError .fault
    return names.filter (· ≠ target)

def expressions (u : ModifierUse) (kind : ModifierKind) (target : String) (places : List Nat) :
    Except DeclarationFault (List String) :=
  match expressionArgs? u places with
  | none => .error (.noExpression u.name target)
  | some args =>
    match u.condition with
    | none => .ok args
    | some condition =>
      if kind = .activator then .ok (args ++ [condition])
      else .error (.conditionRefused u.name target)

def modifierFor (table : ModifierTable) (u : ModifierUse) (target : String) :
    Except DeclarationFault Modifier :=
  match ModifierKind.named? u.kind with
  | none => .error (.unknownKind u.kind u.name target)
  | some kind =>
    match table.get? kind u.name with
    | none => .error (.unknownModifier kind.name u.name target)
    | some m => .ok m

def ofUse (table : ModifierTable) (e : Entity) (target : String) (position : Nat)
    (u : ModifierUse) : Except Failure Token := do
  let explained {α : Type} (r : Except DeclarationFault α) : Except Failure α :=
    r.mapError fun fault => .declaration ⟨some e.name, fault⟩
  let m ← explained (modifierFor table u target)
  let named := namedFields u
  if named.contains target then explained (.error (.selfReference u.name target))
  let texts ← explained (expressions u m.kind target m.expressionArgs)
  let read ← texts.mapM (readBy e.name u target)
  let references := named ++ read.flatten
  let unknown := references.filter (!e.hasField ·)
  if !unknown.isEmpty then
    explained (.error (.unknownReferences u.name target (firstOccurrences unknown)))
  return {
    id := idOf target position u.name
    kind := m.kind
    target
    references := Expression.sortedNames references
    chainable := u.chainable
    call := { modifier := m, args := u.args, condition := u.condition }
    position }

def ofUses (table : ModifierTable) (e : Entity) (target : String) :
    Nat → List ModifierUse → Except Failure (List Token)
  | _, [] => .ok []
  | position, u :: rest => do
    let token ← ofUse table e target position u
    return token :: (← ofUses table e target (position + 1) rest)

end Token

def Entity.tokens (table : ModifierTable) (e : Entity) : Except Failure (List Token) := do
  return (← e.fields.mapM fun f => Token.ofUses table e f.name 0 f.modifiers).flatten

end FieldPipeline
