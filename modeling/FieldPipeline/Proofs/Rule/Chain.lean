import FieldPipeline.Proofs.Session
import FieldPipeline.Rule.Chain

/-!
Running chains of actions.  A computation in a chain is run from an account and a session; both
stay changed when it fails.
-/

namespace FieldPipeline.Chain

variable {α β : Type}

def execIn (x : ChainRun α) (a : ChainState) (s : Session) :
    (Except Failure α × ChainState) × Session :=
  (x.run.run a).run s

@[simp] theorem execIn_account (a : ChainState) (s : Session) :
    execIn account a s = ((.ok a, a), s) := rfl

@[simp] theorem execIn_change (f : ChainState → ChainState) (a : ChainState) (s : Session) :
    execIn (change f) a s = ((.ok (), f a), s) := rfl

theorem execIn_lift (x : Run α) (a : ChainState) (s : Session) :
    execIn (lift x) a s = (((exec x s).1, a), (exec x s).2) := rfl

theorem execIn_bind (x : ChainRun α) (f : α → ChainRun β) (a : ChainState) (s : Session) :
    execIn (x >>= f) a s =
      match execIn x a s with
      | ((.ok v, b), t) => execIn (f v) b t
      | ((.error e, b), t) => ((.error e, b), t) := by
  simp only [execIn, ExceptT.run_bind, StateT.run_bind]
  rcases (x.run.run a).run s with ⟨⟨_ | _, b⟩, t⟩ <;> rfl

theorem execIn_bind_of_ok {x : ChainRun α} {a b : ChainState} {s t : Session} {v : α}
    (h : execIn x a s = ((.ok v, b), t)) (f : α → ChainRun β) :
    execIn (x >>= f) a s = execIn (f v) b t := by
  rw [execIn_bind, h]

theorem execIn_attempt (x : ChainRun α) (a : ChainState) (s : Session) :
    execIn (attempt x) a s =
      ((.ok (execIn x a s).1.1, (execIn x a s).1.2), (execIn x a s).2) := rfl

theorem execIn_ask (route : Option String) (place : Nat) (a : ChainState) (s : Session) :
    execIn (ask route place) a s =
      if place < a.asked then
        ((.error (.chain (.repeatedNext route (Int.ofNat place - 1))), a), s)
      else ((.ok (), { a with asked := place + 1, pending := place :: a.pending }), s) := by
  unfold ask
  rw [execIn_bind_of_ok (execIn_account a s)]
  split <;> rfl

theorem execIn_settle (route : Option String) (place : Nat) (a : ChainState) (s : Session) :
    execIn (settle route place) a s =
      let b := { a with pending := a.pending.filter (· != place + 1) }
      if a.pending.contains (place + 1) && !a.started.contains (place + 1) then
        ((.error (.chain (.droppedNext route place)), b), s)
      else ((.ok (), b), s) := by
  unfold settle
  rw [execIn_bind_of_ok (execIn_account a s), execIn_bind_of_ok (execIn_change _ a s)]
  dsimp only
  split <;> rfl

theorem execIn_runFrom_nil (facts : Facts) (route : Option String) (place : Nat)
    (a : ChainState) (s : Session) :
    execIn (runFrom facts route place []) a s =
      ((.ok (.value .null), { a with started := place :: a.started }), s) := rfl

theorem exec_run (actions : List Action) (route : Option String) (facts : Facts) (s : Session) :
    exec (run actions route facts) s =
      let out := execIn (do
        ask route 0
        runFrom facts route 0 actions) {} s
      (out.1.1, out.2) := rfl

theorem exec_run_before (isAsync : Bool) (work : Facts → Run Unit) (route : Option String)
    (facts : Facts) (s : Session) :
    exec (run [.before isAsync work] route facts) s =
      exec (do work facts; return .value .null) s := by
  have hwork : exec (do work facts; return Value.null : Run Value) s =
      ((exec (work facts) s).1.map fun _ => .null, (exec (work facts) s).2) := by
    rw [exec_bind]
    rcases exec (work facts) s with ⟨_ | _, t⟩ <;> rfl
  rw [exec_run, execIn_bind_of_ok (execIn_ask route 0 {} s), runFrom,
    execIn_bind_of_ok (execIn_change _ _ s), exec_bind]
  dsimp only [Action.before]
  rw [runScript, bind_assoc, execIn_bind_of_ok (execIn_attempt _ _ _), execIn_lift, hwork]
  rcases exec (work facts) s with ⟨f | _, t⟩
  · rfl
  · dsimp only [Except.map]
    cases isAsync
    all_goals
      rw [Script.follow, runScript, bind_assoc, execIn_bind_of_ok (execIn_attempt _ _ _),
        execIn_ask]
      rfl

end FieldPipeline.Chain
