import FieldPipeline.Proofs.Rule.Chain

/-!
Computations that leave a part of the session alone, however they end.  A chain of actions does so
when all the work that its actions perform does.
-/

namespace FieldPipeline

/-- Whether a part of the session shows neither the values to be written and how far the operation
has come, nor the readings, the log and the warnings. -/
structure Session.Apart {γ : Type} (view : Session → γ) : Prop where
  context : ∀ s latest mode progress,
    view { s with context := { s.context with latest, mode, progress } } = view s
  output : ∀ s readings log warnings, view { s with readings, log, warnings } = view s

def Session.ofStore (s : Session) : Store × Option Nat :=
  (s.store, s.context.transaction)

def Session.ofCondition (s : Session) : Option Record :=
  s.context.condition

theorem Session.apart_store : Session.Apart Session.store :=
  ⟨fun _ _ _ _ => rfl, fun _ _ _ _ => rfl⟩

theorem Session.apart_ofStore : Session.Apart Session.ofStore :=
  ⟨fun _ _ _ _ => rfl, fun _ _ _ _ => rfl⟩

theorem Session.apart_ofCondition : Session.Apart Session.ofCondition :=
  ⟨fun _ _ _ _ => rfl, fun _ _ _ _ => rfl⟩

namespace Run

variable {α β γ : Type} {view : Session → γ}

def Keeps (view : Session → γ) (x : Run α) : Prop :=
  ∀ s, view (exec x s).2 = view s

namespace Keeps

theorem of_snd {x : Run α} (hx : ∀ s, (exec x s).2 = s) : Keeps view x :=
  fun s => congrArg view (hx s)

theorem pure (a : α) : Keeps view (Pure.pure a : Run α) :=
  .of_snd fun _ => rfl

theorem fail (f : Failure) : Keeps view (Run.fail f : Run α) :=
  .of_snd fun _ => rfl

theorem reject (entity : String) (cause : RejectionCause) :
    Keeps view (Run.reject entity cause : Run α) :=
  .of_snd fun _ => rfl

theorem ofExcept (r : Except Failure α) : Keeps view (Run.ofExcept r) := by
  refine .of_snd fun s => ?_
  rw [exec_ofExcept]

theorem bind {x : Run α} {f : α → Run β} (hx : Keeps view x) (hf : ∀ a, Keeps view (f a)) :
    Keeps view (x >>= f) :=
  fun s => exec_bind_induct (P := fun t => view t = view s) (hx s) fun a t _ ht =>
    (hf a t).trans ht

theorem bind_context {f : Context → Run β} (hf : ∀ c, Keeps view (f c)) :
    Keeps view (Run.context >>= f) :=
  bind (.of_snd fun _ => rfl) hf

theorem forM {f : α → Run Unit} {l : List α} (hf : ∀ a ∈ l, Keeps view (f a)) :
    Keeps view (l.forM f) :=
  fun s => exec_forM_induct (P := fun t => view t = view s)
    (fun a ha t ht => (hf a ha t).trans ht) rfl

theorem explain {x : Run α} (hx : Keeps view x) (retell : Failure → Failure) :
    Keeps view (x.explain retell) := by
  intro s
  rw [exec_explain]
  exact hx s

variable (hview : Session.Apart view)
include hview

theorem setLatest (name : String) (v : Value) : Keeps view (Run.setLatest name v) :=
  fun s => hview.context s (s.context.latest.put name v) s.context.mode s.context.progress

theorem warn (text : String) : Keeps view (Run.warn text) :=
  fun s => hview.output s s.readings s.log (s.warnings ++ [text])

theorem note (v : Value) : Keeps view (Run.note v) :=
  fun s => hview.output s s.readings (s.log ++ [v]) s.warnings

end Keeps

end Run

/-! ### Chains -/

def Script.Keeps {γ : Type} (view : Session → γ) {isAsync : Bool} : Script isAsync → Prop
  | .return _ | .returnNext | .raise _ => True
  | .work x goOn => (∀ facts, Run.Keeps view (x facts)) ∧ ∀ v, (goOn v).Keeps view
  | .next goOn => ∀ r, (goOn r).Keeps view
  | .wait _ goOn => ∀ r, (goOn r).Keeps view

def Action.Keeps {γ : Type} (view : Session → γ) (a : Action) : Prop :=
  a.script.Keeps view

theorem Script.keeps_follow {γ : Type} {view : Session → γ} (isAsync : Bool) :
    (Script.follow isAsync).Keeps view := by
  cases isAsync with
  | false =>
      intro r
      cases r <;> exact trivial
  | true =>
      intro r
      cases r with
      | error f => exact trivial
      | ok _ =>
          intro r
          cases r <;> exact trivial

theorem Action.keeps_before {γ : Type} {view : Session → γ} (isAsync : Bool)
    {work : Facts → Run Unit} (h : ∀ facts, Run.Keeps view (work facts)) :
    (Action.before isAsync work).Keeps view := by
  refine ⟨fun facts => .bind (h facts) fun _ => .pure _, fun v => ?_⟩
  cases v with
  | error f => exact trivial
  | ok _ => exact Script.keeps_follow isAsync

namespace Chain

variable {α β γ : Type} {view : Session → γ}

def Keeps (view : Session → γ) (x : ChainRun α) : Prop :=
  ∀ a s, view (execIn x a s).2 = view s

namespace Keeps

theorem of_snd {x : ChainRun α} (hx : ∀ a s, (execIn x a s).2 = s) : Keeps view x :=
  fun a s => congrArg view (hx a s)

theorem pure (v : α) : Keeps view (Pure.pure v : ChainRun α) :=
  .of_snd fun _ _ => rfl

theorem throw (f : Failure) : Keeps view (MonadExcept.throw f : ChainRun α) :=
  .of_snd fun _ _ => rfl

theorem change (f : ChainState → ChainState) : Keeps view (Chain.change f) :=
  .of_snd fun _ _ => rfl

theorem lift {x : Run α} (hx : Run.Keeps view x) : Keeps view (Chain.lift x) :=
  fun _ s => hx s

theorem bind {x : ChainRun α} {f : α → ChainRun β} (hx : Keeps view x)
    (hf : ∀ v, Keeps view (f v)) : Keeps view (x >>= f) := by
  intro a s
  have hkeeps := hx a s
  rw [execIn_bind]
  rcases h : execIn x a s with ⟨⟨_ | v, b⟩, t⟩ <;> rw [h] at hkeeps
  · exact hkeeps
  · exact (hf v b t).trans hkeeps

theorem attempt {x : ChainRun α} (hx : Keeps view x) : Keeps view (Chain.attempt x) :=
  fun a s => hx a s

theorem ask (route : Option String) (place : Nat) : Keeps view (Chain.ask route place) := by
  refine .of_snd fun a s => ?_
  rw [execIn_ask]
  split <;> rfl

theorem settle (route : Option String) (place : Nat) : Keeps view (Chain.settle route place) := by
  refine .of_snd fun a s => ?_
  rw [execIn_settle]
  dsimp only
  split <;> rfl

theorem await {rest : ChainRun Result} (hrest : Keeps view rest) (held : Held) :
    Keeps view (Chain.await rest held) := by
  cases held with
  | nothing => exact .throw _
  | waiting => exact hrest
  | spent => exact .throw _

theorem conclude {rest : ChainRun Result} (hrest : Keeps view rest) (isAsync : Bool)
    (ending : Ending) : Keeps view (Chain.conclude rest isAsync ending) := by
  unfold Chain.conclude
  split
  · exact .pure _
  · exact .pure _
  · exact .pure _
  · exact hrest
  · exact .throw _

theorem runScript {isAsync : Bool} {script : Script isAsync} (hscript : script.Keeps view)
    {rest : ChainRun Result} (hrest : Keeps view rest) (facts : Facts) (route : Option String)
    (place : Nat) (held : Held) :
    Keeps view (Chain.runScript facts route place rest held script) := by
  induction script generalizing held with
  | «return» r | returnNext => exact .pure _
  | raise f => exact .throw f
  | work x goOn ih =>
      exact .bind (.attempt (.lift (hscript.1 facts))) fun v => ih v (hscript.2 v) held
  | next goOn ih => exact .bind (.attempt (.ask route place)) fun r => ih r (hscript r) _
  | wait h goOn ih => exact .bind (.attempt (.await hrest held)) fun r => ih r (hscript r) _

theorem runFrom {actions : List Action} (hactions : ∀ a ∈ actions, a.Keeps view) (facts : Facts)
    (route : Option String) (place : Nat) :
    Keeps view (Chain.runFrom facts route place actions) := by
  induction actions generalizing place with
  | nil => exact .bind (.change _) fun _ => .pure _
  | cons a actions ih =>
      have hrest := ih (fun b hb => hactions b (List.mem_cons_of_mem a hb)) (place + 1)
      exact .bind (.change _) fun _ =>
        .bind (runScript (hactions a List.mem_cons_self) hrest facts route (place + 1) .nothing)
          fun ending => .bind (.conclude hrest _ ending) fun r =>
            .bind (.settle route place) fun _ => .pure r

end Keeps

theorem keeps_run {actions : List Action}
    (hactions : ∀ a ∈ actions, a.Keeps view) (route : Option String) (facts : Facts) :
    Run.Keeps view (run actions route facts) := by
  intro s
  rw [exec_run]
  exact Keeps.bind (.ask route 0) (fun _ => .runFrom hactions facts route 0) {} s

end Chain

theorem Rules.keeps_run {γ : Type} {view : Session → γ} {rules : Rules}
    (hrules : ∀ r ∈ rules, ∀ a ∈ r.2, a.Keeps view) (route : String)
    (facts : Facts) : Run.Keeps view (rules.run route facts) := by
  unfold Rules.run
  split
  · rename_i actions hactions
    obtain ⟨before, after, rfl, _⟩ := List.lookup_eq_some_iff.mp hactions
    exact Chain.keeps_run (hrules (route, actions) (by simp)) _ _
  · exact .fail _

end FieldPipeline
