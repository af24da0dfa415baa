import FieldPipeline.Field.Coercion

/-!
Checking that values have a required shape.  A check goes on after it has found an issue, so
that it tells all of them in the order of the members; where there is an issue, a default stands
in for the result.
-/

namespace FieldPipeline

structure Check (α : Type) where
  value : α
  issues : List Issue

namespace Check

instance : Monad Check where
  pure a := ⟨a, []⟩
  bind c f := ⟨(f c.value).value, c.issues ++ (f c.value).issues⟩

def fail {α : Type} [Inhabited α] (issues : List Issue) : Check α :=
  ⟨default, issues⟩

def refuse {α : Type} [Inhabited α] (kind : String) : Check α :=
  fail [⟨[], kind⟩]

def within {α : Type} (part : String) (c : Check α) : Check α :=
  ⟨c.value, c.issues.map (·.within part)⟩

def result {α : Type} (c : Check α) : Except Fault α :=
  if c.issues.isEmpty then .ok c.value else .error (.malformed c.issues)

def ofFault {α : Type} [Inhabited α] : Except Fault α → Check α
  | .ok a => pure a
  | .error (.malformed issues) => fail issues
  | .error _ => refuse "value_error"

/-! The shapes of single values -/

def any (v : Value) : Check Value :=
  pure v

def text : Value → Check String
  | .text s => pure s
  | .bytes bs =>
    match String.fromUTF8? (ByteArray.mk bs.toArray) with
    | some s => pure s
    | none => refuse "string_unicode"
  | _ => refuse "string_type"

def flag (v : Value) : Check Bool :=
  ofFault ((Field.toBoolean v).map Value.isTrue)

def wholeNumber (v : Value) : Check Int :=
  ofFault ((Field.toInteger v).map fun n => (n.asInt?).getD 0)

def optional {α : Type} (shape : Value → Check α) : Value → Check (Option α)
  | .null => pure none
  | v => some <$> shape v

def each {α : Type} (shape : Value → Check α) : Nat → List Value → Check (List α)
  | _, [] => pure []
  | i, v :: vs => do
    let a ← (shape v).within (toString i)
    let rest ← each shape (i + 1) vs
    return a :: rest

def listOf {α : Type} (shape : Value → Check α) : Value → Check (List α)
  | .list xs | .tuple xs | .set xs => each shape 0 xs
  | _ => refuse "list_type"

def keyText : Value → String
  | .text s => s
  | v => v.written

/-- The entries of a mapping whose keys are texts.  Of keys that come to the same text the last
one gives the value. -/
def keys : List (Value × Value) → Check Record
  | [] => pure []
  | (k, v) :: es => do
    let name ← ((text k).within "[key]").within (keyText k)
    let rest ← keys es
    return (name, (rest.get? name).getD v) :: rest.erase name

def record : Value → Check Record
  | .dict es => keys es
  | _ => refuse "dict_type"

/-! The members of mappings -/

abbrev Entries := List (Value × Value)

def under? (name : String) : Entries → Option Value
  | [] => none
  | (.text key, v) :: es => if key = name then some v else under? name es
  | _ :: es => under? name es

def required {α : Type} [Inhabited α] (es : Entries) (name : String)
    (shape : Value → Check α) : Check α :=
  match under? name es with
  | some v => (shape v).within name
  | none => fail [⟨[name], "missing"⟩]

def orElse {α : Type} (es : Entries) (name : String) (shape : Value → Check α) (other : α) :
    Check α :=
  match under? name es with
  | some v => (shape v).within name
  | none => pure other

def present (es : Entries) (names : List String) : List String :=
  names.filter fun name => (under? name es).isSome

def mapping {α : Type} [Inhabited α] (shape : Entries → Check α) : Value → Check α
  | .dict es => shape es
  | _ => refuse "model_type"

end Check

end FieldPipeline
