import FieldPipeline.Value.Equality

/-!
Records: mappings from names to values that keep the order in which the names were first
written.
-/

namespace FieldPipeline

def Value.under? (name : String) : Value → Option Value
  | .dict es => Value.valueAt? (.text name) es
  | _ => none

abbrev Record := List (String × Value)

namespace Record

def get? (name : String) : Record → Option Value
  | [] => none
  | (key, v) :: rest => if key = name then some v else get? name rest

def has (name : String) (r : Record) : Bool :=
  (r.get? name).isSome

def getOrNull (name : String) (r : Record) : Value :=
  (r.get? name).getD .null

/-- Writes a value under a name; a name that is there keeps its place. -/
def put (name : String) (value : Value) : Record → Record
  | [] => [(name, value)]
  | (key, v) :: rest => if key = name then (key, value) :: rest else (key, v) :: put name value rest

def update (r changes : Record) : Record :=
  changes.foldl (fun acc e => acc.put e.1 e.2) r

def erase (name : String) (r : Record) : Record :=
  r.filter fun e => e.1 ≠ name

def names (r : Record) : List String :=
  r.map Prod.fst

/-- Whether a record has the values that a condition asks for; a name that it lacks counts as
null. -/
def satisfies (r condition : Record) : Bool :=
  condition.all fun e => (r.getOrNull e.1).same e.2

def toValue (r : Record) : Value :=
  .dict (r.map fun e => (.text e.1, e.2))

def ofValue? : Value → Option Record
  | .dict es => es.mapM fun e =>
    match e.1 with
    | .text name => some (name, e.2)
    | _ => none
  | _ => none

end Record

end FieldPipeline
