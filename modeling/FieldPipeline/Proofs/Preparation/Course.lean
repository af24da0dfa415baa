import FieldPipeline.Preparation.Course
import FieldPipeline.Preparation.Identification
import FieldPipeline.Proofs.Preparation.Application
import FieldPipeline.Proofs.Session

/-!
The course of a preparation, taken apart.  Finding the record of an update comes first: it may move
the values of a key from the input to the condition, and may load the record that the condition
identifies.
-/

namespace FieldPipeline

structure Session.Identifies (s t : Session) : Prop where
  session : t = { s with context := t.context }
  context : t.context = { s.context with
    raw := t.context.raw, condition := t.context.condition, existing := t.context.existing }

namespace Session.Identifies

variable {s t u : Session}

theorem refl (s : Session) : Session.Identifies s s :=
  ⟨rfl, rfl⟩

theorem trans (h : Session.Identifies s t) (h' : Session.Identifies t u) :
    Session.Identifies s u where
  session := by rw [h'.session, h.session]
  context := by rw [h'.context, h.context]

theorem latest (h : Session.Identifies s t) : t.context.latest = s.context.latest := by
  rw [h.context]

theorem store (h : Session.Identifies s t) : t.store = s.store := by
  rw [h.session]

end Session.Identifies

def Entity.address (e : Entity) (raw : Record) : Option Record → Except Failure (Record × Record)
  | some condition => .ok (condition, raw)
  | none =>
    match e.uniqueKeyIn? raw with
    | none => .error (.misuse (.noKey e.name))
    | some key => (raw.takeKey key).mapError .fault

namespace Preparation

open Run

variable {equipment : Equipment} {e : Entity} {r : Routine}

theorem exec_settleCondition (s : Session) : exec (settleCondition e) s =
    match e.address s.context.raw s.context.condition with
    | .error f => (.error f, s)
    | .ok (condition, raw) =>
      (.ok condition,
        { s with context := { s.context with condition := some condition, raw } }) := by
  obtain ⟨settings, sources, readings, log, warnings, store, context⟩ := s
  obtain ⟨raw, latest, existing, locale, transaction, condition, mode, progress⟩ := context
  unfold settleCondition Entity.address
  rw [exec_bind_of_ok (exec_context _)]
  cases condition with
  | some condition => rfl
  | none =>
      dsimp only
      cases e.uniqueKeyIn? raw with
      | none => rfl
      | some key =>
          dsimp only
          rw [exec_bind, exec_ofFault]
          rcases raw.takeKey key with f | ⟨condition, left⟩ <;> rfl

theorem exec_settleCondition_ok {s : Session} {condition raw : Record}
    (h : e.address s.context.raw s.context.condition = .ok (condition, raw)) :
    exec (settleCondition e) s =
      (.ok condition,
        { s with context := { s.context with condition := some condition, raw } }) := by
  rw [exec_settleCondition, h]

theorem exec_settleCondition_error {s : Session} {f : Failure}
    (h : e.address s.context.raw s.context.condition = .error f) :
    exec (settleCondition e) s = (.error f, s) := by
  rw [exec_settleCondition, h]

theorem identifies_settleCondition (s : Session) :
    s.Identifies (exec (settleCondition e) s).2 := by
  rw [exec_settleCondition]
  split
  · exact .refl s
  · exact ⟨rfl, rfl⟩

theorem exec_loadFormer (condition : Record) (s : Session) :
    exec (loadFormer equipment e condition) s =
      if equipment.hasStore then
        match s.store.findOne e.name condition with
        | none => (.error (.rejected ⟨some e.name, .noRecord condition.toValue⟩), s)
        | some record => (.ok (), { s with context := { s.context with existing := some record } })
      else (.error (.misuse (.noStore e.name)), s) := by
  unfold loadFormer
  cases equipment.hasStore with
  | false => rfl
  | true =>
      simp only [Bool.not_true, Bool.false_eq_true, if_false, if_true]
      rw [exec_bind_of_ok (exec_get s)]
      cases s.store.findOne e.name condition <;> rfl

/-- The record is loaded when it has to be known and is not known already. -/
theorem exec_identify (s : Session) : exec (identify equipment e r) s =
    match exec (settleCondition e) s with
    | (.error f, t) => (.error f, t)
    | (.ok condition, t) =>
      if t.context.existing.isNone then
        match needsFormer equipment.features e r t.context.raw with
        | .error f => (.error f, t)
        | .ok false => (.ok (), t)
        | .ok true => exec (loadFormer equipment e condition) t
      else (.ok (), t) := by
  unfold identify
  rw [exec_bind]
  rcases exec (settleCondition e) s with ⟨f | condition, t⟩
  · rfl
  · dsimp only
    rw [exec_bind_of_ok (exec_context t)]
    cases t.context.existing.isNone with
    | false => rfl
    | true =>
        simp only [if_true]
        rw [exec_bind, exec_ofExcept]
        rcases needsFormer equipment.features e r t.context.raw with f | _ | _ <;> rfl

theorem identifies_identify (s : Session) : s.Identifies (exec (identify equipment e r) s).2 := by
  have hsettle := @identifies_settleCondition e s
  rw [exec_identify]
  rcases h : exec (settleCondition e) s with ⟨f | condition, t⟩
  · rw [h] at hsettle
    exact hsettle
  · rw [h] at hsettle
    change s.Identifies t at hsettle
    dsimp only
    cases t.context.existing.isNone with
    | false => exact hsettle
    | true =>
        simp only [if_true]
        rcases needsFormer equipment.features e r t.context.raw with f | _ | _
        · exact hsettle
        · exact hsettle
        · dsimp only
          rw [exec_loadFormer]
          refine hsettle.trans ?_
          split
          · split
            · exact .refl t
            · exact ⟨rfl, rfl⟩
          · exact .refl t

end Preparation

/-! ### The points of a preparation -/

def Session.atPoint (p : Progress) (s : Session) : Session :=
  { s with context := { s.context with progress := p } }

/-- A session in which a preparation has failed.  An interruption leaves it at the point to which
it has come. -/
def Session.failed (f : Failure) (s : Session) : Session :=
  if f.isInterruption then s else s.atPoint .failed

def Session.begun (mode : Mode) (s : Session) : Session :=
  { s with context := { s.context with mode := some mode, latest := [] } }

namespace Preparation

open Run

variable {equipment : Equipment} {e : Entity} {r : Routine} {mode : Mode}

@[simp] theorem exec_reach (p : Progress) (s : Session) :
    exec (reach p) s = (.ok (), s.atPoint p) := rfl

theorem writesOnly_reach {written : String → Prop} (p : Progress) : WritesOnly written (reach p) :=
  fun _ => ⟨rfl, rfl, rfl, rfl, fun _ _ => rfl, id, fun _ => id⟩

def later (equipment : Equipment) (e : Entity) (r : Routine) (mode : Mode) : Run Unit := do
  reach .perFieldFill
  fill equipment e mode
  reach .applyRoutine
  r.apply e
  reach .postValidation
  e.runRules equipment.rules .postDataValidation
  e.runRules equipment.rules (lastCheck mode)

theorem exec_later_ok {s t : Session} (h : exec (later equipment e r mode) s = (.ok (), t)) :
    ∃ filled applied checked,
      exec (fill equipment e mode) (s.atPoint .perFieldFill) = (.ok (), filled) ∧
      exec (r.apply e) (filled.atPoint .applyRoutine) = (.ok (), applied) ∧
      exec (e.runRules equipment.rules .postDataValidation) (applied.atPoint .postValidation) =
        (.ok (), checked) ∧
      exec (e.runRules equipment.rules (lastCheck mode)) checked = (.ok (), t) := by
  unfold later at h
  rw [exec_bind_of_ok (exec_reach _ _), exec_bind_eq_ok] at h
  obtain ⟨_, filled, hfill, h⟩ := h
  rw [exec_bind_of_ok (exec_reach _ _), exec_bind_eq_ok] at h
  obtain ⟨_, applied, happly, h⟩ := h
  rw [exec_bind_of_ok (exec_reach _ _), exec_bind_eq_ok] at h
  obtain ⟨_, checked, hfirst, hlast⟩ := h
  exact ⟨filled, applied, checked, hfill, happly, hfirst, hlast⟩

theorem steps_create (equipment : Equipment) (e : Entity) (r : Routine) :
    steps equipment e r .create = later equipment e r .create := rfl

theorem steps_update (equipment : Equipment) (e : Entity) (r : Routine) :
    steps equipment e r .update = (do
      reach .resolveExisting
      identify equipment e r
      later equipment e r .update) := rfl

theorem exec_prepare (equipment : Equipment) (e : Entity) (r : Routine) (mode : Mode)
    (s : Session) : exec (prepare equipment e r mode) s =
      match exec (steps equipment e r mode) (s.begun mode) with
      | (.ok _, t) => (.ok t.context.latest, t.atPoint .done)
      | (.error f, t) => (.error f, t.failed f) := by
  unfold prepare
  have hbegun : exec (setContext fun c => { c with mode := some mode, latest := [] }) s =
      (.ok (), s.begun mode) := rfl
  rw [exec_bind_of_ok hbegun, exec_bind, exec_tryCatch]
  rcases exec (steps equipment e r mode) (s.begun mode) with ⟨f | _, t⟩
  · unfold Session.failed
    cases f <;> rfl
  · rfl

def Begins (equipment : Equipment) (e : Entity) (r : Routine) : Mode → Session → Session → Prop
  | .create, s, v => v = s.begun .create
  | .update, s, v =>
    exec (identify equipment e r) ((s.begun .update).atPoint .resolveExisting) = (.ok (), v)

theorem Begins.latest_and_mode {s v : Session} (h : Begins equipment e r mode s v) :
    v.context.latest = [] ∧ v.context.mode = some mode := by
  cases mode with
  | create =>
      cases h
      exact ⟨rfl, rfl⟩
  | update =>
      have hidentifies := @identifies_identify equipment e r
        ((s.begun .update).atPoint .resolveExisting)
      rw [show exec _ _ = _ from h] at hidentifies
      rw [hidentifies.context]
      exact ⟨rfl, rfl⟩

theorem exec_prepare_ok {s t : Session} {values : Record}
    (h : exec (prepare equipment e r mode) s = (.ok values, t)) : ∃ v u,
      Begins equipment e r mode s v ∧ exec (later equipment e r mode) v = (.ok (), u) ∧
        t = u.atPoint .done ∧ values = t.context.latest := by
  rw [exec_prepare] at h
  rcases hsteps : exec (steps equipment e r mode) (s.begun mode) with ⟨f | _, u⟩
  · rw [hsteps] at h
    cases h
  · rw [hsteps] at h
    cases h
    cases mode with
    | create => exact ⟨s.begun .create, u, rfl, hsteps, rfl, rfl⟩
    | update =>
        rw [steps_update, exec_bind_of_ok (exec_reach _ _), exec_bind_eq_ok] at hsteps
        obtain ⟨_, v, hidentify, hlater⟩ := hsteps
        exact ⟨v, u, hidentify, hlater, rfl, rfl⟩

theorem nodup_fill (hdraws : ∀ g ∈ equipment.generators, g.Draws) {s : Session}
    (hs : s.context.latest.names.Nodup) :
    (exec (fill equipment e mode) s).2.context.latest.names.Nodup :=
  (writesOnly_fill hdraws s).nodup hs

end Preparation

end FieldPipeline
