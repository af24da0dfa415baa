import FieldPipeline.Failure.Basic

/-!
A store of records in tables, with at most one open transaction.  A transaction keeps the tables
as they were when it began.
-/

namespace FieldPipeline

abbrev Tables := List (String × List Record)

structure Transaction where
  id : Nat
  opened : Tables
  deriving Repr

structure Store where
  tables : Tables
  active : Option Transaction
  nextId : Nat
  deriving Repr

namespace Store

def empty : Store := ⟨[], none, 1⟩

def ofTables (tables : Tables) : Store := { empty with tables }

def records (entity : String) : Tables → List Record
  | [] => []
  | (name, rs) :: rest => if name = entity then rs else records entity rest

def setRecords (entity : String) (rs : List Record) : Tables → Tables
  | [] => [(entity, rs)]
  | (name, old) :: rest =>
    if name = entity then (name, rs) :: rest else (name, old) :: setRecords entity rs rest

def describe (s : Store) (tx : Option Nat) : String :=
  match tx with
  | none => "None"
  | some id =>
    let closed := if s.active.any (·.id == id) then "" else " closed"
    "<Transaction " ++ toString id ++ closed ++ ">"

def begin (s : Store) : Except Failure Nat × Store :=
  match s.active with
  | some _ => (.error (.misuse .transactionOpen), s)
  | none => (.ok s.nextId, { s with active := some ⟨s.nextId, s.tables⟩, nextId := s.nextId + 1 })

/-- Closes a transaction, which must be the open one; `finish` tells what its tables become.
Without a transaction there is nothing that could be closed. -/
def close (s : Store) (tx : Option Nat) (finish : Transaction → Tables) :
    Except Failure Unit × Store :=
  match s.active, tx with
  | some t, some id =>
    if t.id = id then (.ok (), { s with active := none, tables := finish t })
    else (.error (.misuse (.notOpen (s.describe tx))), s)
  | none, none => (.error (.fault .missingPart), s)
  | _, _ => (.error (.misuse (.notOpen (s.describe tx))), s)

def commit (s : Store) (tx : Option Nat) : Except Failure Unit × Store :=
  s.close tx fun _ => s.tables

def rollback (s : Store) (tx : Option Nat) : Except Failure Unit × Store :=
  s.close tx Transaction.opened

def findOne (s : Store) (entity : String) (condition : Record) : Option Record :=
  (records entity s.tables).find? (·.satisfies condition)

def insert (s : Store) (entity : String) (values : Record) : Except Failure Record × Store :=
  let rows := records entity s.tables ++ [values]
  (.ok values, { s with tables := setRecords entity rows s.tables })

def update (s : Store) (entity : String) (values condition : Record) : Except Failure Nat × Store :=
  let rows := records entity s.tables
  let changed := rows.map fun r => if r.satisfies condition then r.update values else r
  let tables :=
    if s.tables.any (·.1 = entity) then setRecords entity changed s.tables else s.tables
  (.ok (rows.countP (·.satisfies condition)), { s with tables })

def delete (s : Store) (entity : String) (condition : Record) : Except Failure Nat × Store :=
  let rows := records entity s.tables
  let kept := rows.filter fun r => !r.satisfies condition
  (.ok (rows.length - kept.length), { s with tables := setRecords entity kept s.tables })

end Store

end FieldPipeline
