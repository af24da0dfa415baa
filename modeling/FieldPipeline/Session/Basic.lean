import FieldPipeline.Calendar.Moment
import FieldPipeline.Session.Context
import FieldPipeline.Settings.Basic
import FieldPipeline.Store.Basic

/-!
Sessions: all that computations read and change.  What a computation changed stays changed when
it fails.  A session takes the time and its unforeseeable values from sources, each of which tells
what its n-th reading gives.
-/

namespace FieldPipeline

structure Sources where
  /-- The microseconds since the start of 1970. -/
  instant : Nat → Int
  /-- The seconds by which the local zone is ahead. -/
  localOffset : Int
  /-- A whole number between two bounds. -/
  whole : Nat → Int → Int → Int
  /-- A place among a number of them. -/
  place : Nat → Nat → Nat
  fraction : Float
  identifier : Nat → String
  /-- The microseconds from which the stamps of a session start. -/
  stamp : Nat

structure Readings where
  instants : Nat := 0
  wholes : Nat := 0
  places : Nat := 0
  identifiers : Nat := 0
  lastStamp : Nat := 0
  deriving DecidableEq, Repr, Inhabited

open FieldPipeline.Calendar

structure Session where
  settings : Settings
  sources : Sources
  readings : Readings := {}
  log : List Value := []
  warnings : List String := []
  store : Store := Store.empty
  context : Context := {}

abbrev Run (α : Type) := ExceptT Failure (StateM Session) α

namespace Run

def fail {α : Type} (f : Failure) : Run α :=
  throw f

def reject {α : Type} (entity : String) (cause : RejectionCause) : Run α :=
  throw (.rejected ⟨some entity, cause⟩)

def ofFault {α : Type} (r : Except Fault α) : Run α :=
  match r with
  | .ok a => pure a
  | .error f => throw (.fault f)

def ofExcept {α : Type} (r : Except Failure α) : Run α :=
  match r with
  | .ok a => pure a
  | .error f => throw f

def explain {α : Type} (x : Run α) (retell : Failure → Failure) : Run α :=
  tryCatch x fun f => throw (retell f)

def settings : Run Settings := do
  return (← get).settings

def context : Run Context := do
  return (← get).context

def setContext (change : Context → Context) : Run Unit :=
  modify fun s => { s with context := change s.context }

def setLatest (name : String) (v : Value) : Run Unit :=
  setContext fun c => { c with latest := c.latest.put name v }

def note (v : Value) : Run Unit :=
  modify fun s => { s with log := s.log ++ [v] }

def warn (text : String) : Run Unit :=
  modify fun s => { s with warnings := s.warnings ++ [text] }

def inStore {α : Type} (action : Store → Except Failure α × Store) : Run α := do
  let s ← get
  let (r, store) := action s.store
  set { s with store }
  ofExcept r

def now : Run Moment := do
  let s ← get
  let offset := if s.settings.isLocal then s.sources.localOffset else 0
  let n := s.readings.instants
  set { s with readings := { s.readings with instants := n + 1 } }
  return Moment.ofInstant (s.sources.instant n) offset

def wholeNumber (low high : Int) : Run Int := do
  let s ← get
  let n := s.readings.wholes
  set { s with readings := { s.readings with wholes := n + 1 } }
  return s.sources.whole n low high

def place (count : Nat) : Run Nat := do
  let s ← get
  let n := s.readings.places
  set { s with readings := { s.readings with places := n + 1 } }
  return s.sources.place n count

def identifier : Run String := do
  let s ← get
  let n := s.readings.identifiers + 1
  set { s with readings := { s.readings with identifiers := n } }
  return s.sources.identifier n

def stamp : Run Nat := do
  let s ← get
  let next := max s.sources.stamp (s.readings.lastStamp + 1)
  set { s with readings := { s.readings with lastStamp := next } }
  return next

end Run

end FieldPipeline
