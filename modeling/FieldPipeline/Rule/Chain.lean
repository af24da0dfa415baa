import FieldPipeline.Entity.Basic
import FieldPipeline.Session.Basic

/-!
Rules: what is done at certain points of an operation.  An action is told what it is about, and it
can ask for the action that follows it.  It gets something for that which can be waited for, and the
following action is not started before.  Only an asynchronous action can wait for it by itself; when
another one returns it, the chain waits for it.

Each action of a chain may ask for the following one once, and what it got must have been waited for
when it comes to its end.  All actions of a chain share one account of what has been asked for and
of what has been started.  The actions that are added under one route make up one chain.
-/

namespace FieldPipeline

structure Facts where
  feature : FeatureUse
  entity : Entity
  deriving Inhabited

/-- What an action gives back.  What it got for the following action is something that it can give
back as well, but when that has been waited for, nothing more comes of it. -/
inductive Result where
  | value (v : Value)
  | spent
  deriving Inhabited

/-- What an action does first, and how it goes on when that has succeeded or failed. -/
inductive Script (isAsync : Bool) where
  | return (r : Result)
  /-- Returns what it got for the following action. -/
  | returnNext
  | raise (f : Failure)
  | work (x : Facts → Run Value) (goOn : Except Failure Value → Script isAsync)
  | next (goOn : Except Failure Unit → Script isAsync)
  | wait (h : isAsync = true) (goOn : Except Failure Result → Script isAsync)

structure Action where
  isAsync : Bool := false
  script : Script isAsync

namespace Script

def follow : (isAsync : Bool) → Script isAsync
  | false => .next fun
    | .ok () => .returnNext
    | .error f => .raise f
  | true => .next fun
    | .ok () => .wait rfl fun
      | .ok r => .return r
      | .error f => .raise f
    | .error f => .raise f

end Script

def Action.before (isAsync : Bool) (work : Facts → Run Unit) : Action where
  isAsync := isAsync
  script := .work (fun facts => do work facts; return .null) fun
    | .ok _ => .follow isAsync
    | .error f => .raise f

inductive Offered where
  | action (a : Action)
  | other (v : Value)

namespace Offered

def actions : List Offered → Except FeatureProblem (List Action)
  | [] => .ok []
  | .action a :: rest => (actions rest).map (a :: ·)
  | .other v :: _ => .error (.unusableAction v)

end Offered

structure ChainState where
  /-- How many actions have been asked for. -/
  asked : Nat := 0
  /-- The places of those actions that have been asked for by an action still at work. -/
  pending : List Nat := []
  started : List Nat := []
  deriving DecidableEq, Repr, Inhabited

abbrev ChainRun (α : Type) := ExceptT Failure (StateT ChainState (StateM Session)) α

namespace Chain

def lift {α : Type} (x : Run α) : ChainRun α :=
  ExceptT.mk (StateT.lift x.run)

def account : ChainRun ChainState :=
  ExceptT.lift get

def change (f : ChainState → ChainState) : ChainRun Unit :=
  ExceptT.lift (modify f)

/-- Asks for the action at a place, which the action before it may do once. -/
def ask (route : Option String) (place : Nat) : ChainRun Unit := do
  let s ← account
  if place < s.asked then throw (.chain (.repeatedNext route (Int.ofNat place - 1)))
  else change fun s => { s with asked := place + 1, pending := place :: s.pending }

def attempt {m : Type → Type} [Monad m] {α : Type} (x : ExceptT Failure m α) :
    ExceptT Failure m (Except Failure α) :=
  ExceptT.lift x.run

inductive Held where
  | nothing | waiting | spent
  deriving DecidableEq, Repr

inductive Ending where
  | result (r : Result)
  | next (held : Held)

/-- Waits for what an action got; it can be waited for once. -/
def await (rest : ChainRun Result) : Held → ChainRun Result
  | .waiting => rest
  | .spent => throw (.fault .waitedTwice)
  | .nothing => throw (.fault .wrongType)

/-- Goes through the script of an action, where `place` is that of the following action and `rest`
is the chain from there on. -/
def runScript {isAsync : Bool} (facts : Facts) (route : Option String) (place : Nat)
    (rest : ChainRun Result) : Held → Script isAsync → ChainRun Ending
  | _, .return r => return .result r
  | held, .returnNext => return .next held
  | _, .raise f => throw f
  | held, .work x goOn => do
    let v ← attempt (lift (x facts))
    runScript facts route place rest held (goOn v)
  | held, .next goOn => do
    let r ← attempt (ask route place)
    runScript facts route place rest (if r.isOk then .waiting else held) (goOn r)
  | held, .wait _ goOn => do
    let r ← attempt (await rest held)
    runScript facts route place rest (if held = .nothing then .nothing else .spent) (goOn r)

/-- The result of an action.  The chain waits for what an action returns unless that action is
asynchronous. -/
def conclude (rest : ChainRun Result) : Bool → Ending → ChainRun Result
  | _, .result (.value v) => return .value v
  | _, .next .nothing => return .value .null
  | true, _ => return .spent
  | false, .next .waiting => rest
  | false, _ => throw (.fault .waitedTwice)

/-- Closes the account of an action that has come to its end: what it asked for must have been
started. -/
def settle (route : Option String) (place : Nat) : ChainRun Unit := do
  let s ← account
  change fun s => { s with pending := s.pending.filter (· != place + 1) }
  if s.pending.contains (place + 1) && !s.started.contains (place + 1) then
    throw (.chain (.droppedNext route place))

def runFrom (facts : Facts) (route : Option String) : Nat → List Action → ChainRun Result
  | place, [] => do
    change fun s => { s with started := place :: s.started }
    return .value .null
  | place, a :: actions => do
    change fun s => { s with started := place :: s.started }
    let rest := runFrom facts route (place + 1) actions
    let ending ← runScript facts route (place + 1) rest .nothing a.script
    let r ← conclude rest a.isAsync ending
    settle route place
    return r

/-- Runs actions as one chain, which ends when an action does not go on to the following one. -/
def run (actions : List Action) (route : Option String) (facts : Facts) : Run Result :=
  ExceptT.mk do
    let start := do
      ask route 0
      runFrom facts route 0 actions
    let (result, _) ← start.run.run {}
    return result

end Chain

abbrev Rules := List (String × List Action)

namespace Rules

def empty : Rules := []

def has (route : String) (rules : Rules) : Bool :=
  rules.any fun r => r.1 = route

def routes (rules : Rules) : List String :=
  rules.map Prod.fst

def actions? (route : String) (rules : Rules) : Option (List Action) :=
  rules.lookup route

def extend (route : String) (actions : List Action) : Rules → Rules
  | [] => [(route, actions)]
  | (name, old) :: rest =>
    if name = route then (name, old ++ actions) :: rest
    else (name, old) :: extend route actions rest

def add (route : String) (offered : List Offered) (rules : Rules) : Except FeatureProblem Rules :=
  (Offered.actions offered).map fun actions => extend route actions rules

def run (route : String) (facts : Facts) (rules : Rules) : Run Result :=
  match rules.actions? route with
  | some actions => Chain.run actions (some route) facts
  | none => Run.fail (.chain (.unknownRoute route))

end Rules

end FieldPipeline
