import FieldPipeline.Model.Basic
import FieldPipeline.Proofs.Keeping
import FieldPipeline.Proofs.Preparation.Keeping
import FieldPipeline.Proofs.Routine.Settling
import FieldPipeline.Proofs.Store

/-!
Creating, updating and deleting are all or nothing.  When no transaction is given, one is opened for
the work.  An operation that fails at any point leaves the tables as they were, and one that
succeeds does exactly what it says; either way the transaction that was open before is open after
it.

Only the transaction that was opened for the work can be in the way of that: it stays open when the
work is interrupted, or when the context names another one by then.
-/

namespace FieldPipeline

open Run

variable {α : Type}

def Session.opened (s : Session) : Session :=
  { s with
    store := { s.store with
      active := some ⟨s.store.nextId, s.store.tables⟩, nextId := s.store.nextId + 1 }
    context := { s.context with transaction := some s.store.nextId } }

def Session.closed (tables : Tables) (s : Session) : Session :=
  { s with store := { s.store with active := none, tables } }

/-- The outcome of work in the transaction that was opened in a session `s`, when the transaction
that the context names has been closed, or could not be. -/
def Session.settled (s t : Session) (tables : Tables) (result : Except Failure α) :
    Except Failure α × Session :=
  if t.context.transaction = some s.store.nextId then (result, t.closed tables)
  else (.error (.misuse (.notOpen (t.store.describe t.context.transaction))), t)

def Session.concluded (s : Session) : Except Failure α × Session → Except Failure α × Session
  | (.error f, t) =>
    if f.isInterruption then (.error f, t) else s.settled t s.store.tables (.error f)
  | (.ok a, t) => s.settled t t.store.tables (.ok a)

/-- Whether the transaction that was opened in a session `s` is not closed after some outcome. -/
def Session.LeavesOpen (s : Session) (out : Except Failure α × Session) : Prop :=
  (∃ i, out.1 = .error (.interrupted i)) ∨ out.2.context.transaction ≠ some s.store.nextId

def Session.slot (s : Session) : Option Transaction :=
  s.store.active

def Session.ofTransaction (s : Session) : Option Transaction × Option Nat :=
  (s.store.active, s.context.transaction)

theorem Run.Keeps.inStore {γ : Type} {view : Session → γ}
    {action : Store → Except Failure α × Store}
    (haction : ∀ s : Session, view { s with store := (action s.store).2 } = view s) :
    Run.Keeps view (Run.inStore action) := by
  intro s
  rw [exec_inStore]
  exact haction s

theorem Failure.isInterruption_iff {f : Failure} :
    f.isInterruption = true ↔ ∃ i, f = .interrupted i := by
  cases f with
  | interrupted i => exact ⟨fun _ => ⟨i, rfl⟩, fun _ => rfl⟩
  | _ => exact ⟨nofun, nofun⟩

namespace Session

variable {s : Session} {out : Except Failure α × Session}

instance : Decidable (s.LeavesOpen out) :=
  decidable_of_iff
    ((match out.1 with | .error f => f.isInterruption | .ok _ => false) = true ∨
      out.2.context.transaction ≠ some s.store.nextId) <| by
    unfold LeavesOpen
    cases out.1 with
    | error f => simp [Failure.isInterruption_iff]
    | ok a => simp

theorem concluded_of_leavesOpen (h : s.LeavesOpen out) :
    ∃ f, s.concluded out = (.error f, out.2) := by
  obtain ⟨f | a, t⟩ := out
  · by_cases hf : f.isInterruption = true
    · exact ⟨f, if_pos hf⟩
    · have htransaction := h.resolve_left fun ⟨i, hi⟩ =>
        hf (Failure.isInterruption_iff.mpr ⟨i, Except.error.inj hi⟩)
      exact ⟨_, (if_neg hf).trans (if_neg htransaction)⟩
  · exact ⟨_, if_neg (h.resolve_left nofun)⟩

theorem concluded_of_not_leavesOpen (h : ¬s.LeavesOpen out) : s.concluded out =
    (out.1, out.2.closed (if out.1.isOk then out.2.store.tables else s.store.tables)) := by
  obtain ⟨hf, htransaction⟩ := not_or.mp h
  rw [not_not] at htransaction
  obtain ⟨f | a, t⟩ := out
  · refine (if_neg fun hinterrupted => hf ?_).trans (if_pos htransaction)
    obtain ⟨i, rfl⟩ := Failure.isInterruption_iff.mp hinterrupted
    exact ⟨i, rfl⟩
  · exact if_pos htransaction

theorem settled_error (s t : Session) (tables : Tables) (f : Failure) :
    ∃ g u, s.settled t tables (.error f : Except Failure α) = (.error g, u) := by
  unfold settled
  split <;> exact ⟨_, _, rfl⟩

theorem fst_concluded (h : out.2.context.transaction = some s.store.nextId) :
    (s.concluded out).1 = out.1 := by
  obtain ⟨f | a, t⟩ := out <;> change t.context.transaction = _ at h <;>
    unfold concluded settled <;> dsimp only <;> rw [if_pos h]
  split <;> rfl

end Session

namespace Model

def still (s : Store) : Session where
  settings := {}
  sources := .still
  store := s

theorem exec_closeTransaction {s : Session} {tx : Transaction} (h : s.store.active = some tx)
    (finish : Store → Transaction → Tables) :
    exec (closeTransaction fun store id => store.close id (finish store)) s =
      if s.context.transaction = some tx.id then (.ok (), s.closed (finish s.store tx))
      else (.error (.misuse (.notOpen (s.store.describe s.context.transaction))), s) := by
  unfold closeTransaction
  rw [exec_bind_of_ok (exec_context s), exec_inStore]
  dsimp only
  rw [Store.close_of_active h]
  split <;> rfl

theorem exec_closeTransaction_bind {s t : Session} (hslot : t.slot = s.opened.slot)
    (finish : Store → Transaction → Tables) {next : Run α} {result : Except Failure α}
    (hnext : ∀ t, exec next t = (result, t)) :
    exec (do
      closeTransaction fun store id => store.close id (finish store)
      next) t = s.settled t (finish t.store ⟨s.store.nextId, s.store.tables⟩) result := by
  rw [exec_bind, exec_closeTransaction hslot]
  unfold Session.settled
  by_cases htransaction : t.context.transaction = some s.store.nextId
  · rw [if_pos htransaction, if_pos htransaction]
    exact hnext _
  · rw [if_neg htransaction, if_neg htransaction]

theorem exec_inTransaction_of_some {work : Run α} {s : Session} {id : Nat}
    (h : s.context.transaction = some id) : exec (inTransaction work) s = exec work s := by
  unfold inTransaction
  rw [exec_bind_of_ok (exec_context s), h]

theorem exec_inTransaction_of_open {work : Run α} {s : Session} {tx : Transaction}
    (h : s.context.transaction = none) (hactive : s.store.active = some tx) :
    exec (inTransaction work) s = (.error (.misuse .transactionOpen), s) := by
  have hbegin : exec (inStore Store.begin) s = (.error (.misuse .transactionOpen), s) := by
    rw [exec_inStore]
    unfold Store.begin
    rw [hactive]
  unfold inTransaction
  rw [exec_bind_of_ok (exec_context s), h]
  exact exec_bind_of_error hbegin _

theorem exec_inTransaction_of_none {work : Run α} (hwork : work.Keeps Session.slot) {s : Session}
    (h : s.context.transaction = none) (hactive : s.store.active = none) :
    exec (inTransaction work) s = s.concluded (exec work s.opened) := by
  have hbegin : exec (inStore Store.begin) s = (.ok s.store.nextId,
      { s with store := s.opened.store }) := by
    rw [exec_inStore]
    unfold Store.begin
    rw [hactive]
    rfl
  have hopened : exec (setContext fun c => { c with transaction := some s.store.nextId })
      { s with store := s.opened.store } = (.ok (), s.opened) := rfl
  unfold inTransaction
  rw [exec_bind_of_ok (exec_context s), h]
  dsimp only
  rw [exec_bind_of_ok hbegin, exec_bind_of_ok hopened, exec_bind, exec_tryCatch]
  have hslot := hwork s.opened
  rcases hexec : exec work s.opened with ⟨f | a, t⟩ <;> rw [hexec] at hslot
  · unfold Session.concluded
    dsimp only
    cases f.isInterruption with
    | true => rfl
    | false =>
        have hrollback : exec (do
            closeTransaction Store.rollback
            throw f) t = s.settled t s.store.tables (.error f : Except Failure α) :=
          exec_closeTransaction_bind hslot (fun _ => Transaction.opened) fun _ => rfl
        obtain ⟨g, u, hfailed⟩ := s.settled_error (α := α) t s.store.tables f
        simp only [Bool.false_eq_true, if_false]
        exact (hrollback.trans hfailed) ▸ hfailed.symm
  · exact exec_closeTransaction_bind hslot (fun store _ => store.tables) fun _ => rfl

theorem exec_inTransaction_cases {work : Run α} (hwork : work.Keeps Session.slot) (s : Session) :
    s.context.transaction ≠ none ∧ exec (inTransaction work) s = exec work s ∨
    s.store.active ≠ none ∧
      exec (inTransaction work) s = (.error (.misuse .transactionOpen), s) ∨
    s.context.transaction = none ∧ s.store.active = none ∧
      exec (inTransaction work) s = s.concluded (exec work s.opened) := by
  cases h : s.context.transaction with
  | some id => exact .inl ⟨nofun, exec_inTransaction_of_some h⟩
  | none =>
      cases hactive : s.store.active with
      | some tx => exact .inr (.inl ⟨nofun, exec_inTransaction_of_open h hactive⟩)
      | none => exact .inr (.inr ⟨rfl, rfl, exec_inTransaction_of_none hwork h hactive⟩)

end Model

/-! ### All or nothing -/

def AllOrNothing (tables : Tables) (effect : α → Session → Prop) :
    Except Failure α × Session → Prop
  | (.error _, t) => t.store.tables = tables
  | (.ok a, t) => effect a t

/-- Whether an operation has an effect or fails and leaves the tables as they were, and in both
cases leaves the transaction open that was open. -/
def Session.Atomic (s : Session) (out : Except Failure α × Session)
    (effect : α → Session → Prop) : Prop :=
  out.2.store.active = s.store.active ∧ AllOrNothing s.store.tables effect out

/-- Whether work is given a transaction of its own and leaves it open. -/
def Session.Strands (s : Session) (work : Run α) : Prop :=
  s.context.transaction = none ∧ s.store.active = none ∧ s.LeavesOpen (exec work s.opened)

instance {s : Session} {work : Run α} : Decidable (s.Strands work) :=
  inferInstanceAs (Decidable (_ ∧ _ ∧ _))

theorem AllOrNothing.imp {tables : Tables} {effect effect' : α → Session → Prop}
    {out : Except Failure α × Session} (h : AllOrNothing tables effect out)
    (himp : ∀ a t, effect a t → effect' a t) : AllOrNothing tables effect' out := by
  obtain ⟨_ | a, t⟩ := out
  · exact h
  · exact himp a t h

theorem AllOrNothing.unchanged_or_effect {tables : Tables} {effect : α → Session → Prop}
    {out : Except Failure α × Session} (h : AllOrNothing tables effect out) :
    out.2.store.tables = tables ∨ ∃ a, effect a out.2 := by
  obtain ⟨_ | a, t⟩ := out
  · exact .inl h
  · exact .inr ⟨a, h⟩

namespace Model

section

variable {work : Run α} {effect : α → Session → Prop}
  (hclosed : ∀ a t, effect a t → effect a (t.closed t.store.tables)) {s : Session}
  (hdone : ∀ s', s'.store.tables = s.store.tables →
    s'.context = { s.context with transaction := s'.context.transaction } →
    AllOrNothing s.store.tables effect (exec work s'))

theorem exec_inTransaction_of_strands (hwork : work.Keeps Session.slot) (h : s.Strands work) :
    ∃ f, exec (inTransaction work) s = (.error f, (exec work s.opened).2) := by
  obtain ⟨htransaction, hactive, hopen⟩ := h
  obtain ⟨f, hconcluded⟩ := Session.concluded_of_leavesOpen hopen
  exact ⟨f, (exec_inTransaction_of_none hwork htransaction hactive).trans hconcluded⟩

include hclosed hdone

theorem allOrNothing_concluded (hopen : ¬s.LeavesOpen (exec work s.opened)) :
    AllOrNothing s.store.tables effect (s.concluded (exec work s.opened)) := by
  have hresult := hdone s.opened rfl rfl
  rw [Session.concluded_of_not_leavesOpen hopen]
  rcases hexec : exec work s.opened with ⟨f | a, t⟩
  · rfl
  · rw [hexec] at hresult
    exact hclosed a t hresult

/-- Work that is all or nothing but for the transaction is so in a transaction, given or opened,
if and only if none is left open. -/
theorem atomic_inTransaction_iff (hwork : work.Keeps Session.slot) :
    s.Atomic (exec (inTransaction work) s) effect ↔ ¬s.Strands work := by
  constructor
  · rintro ⟨hactive, -⟩ hstrands
    obtain ⟨f, hexec⟩ := exec_inTransaction_of_strands hwork hstrands
    rw [hexec, hstrands.2.1] at hactive
    cases (hwork s.opened).symm.trans hactive
  · intro hstrands
    rcases exec_inTransaction_cases hwork s with
      ⟨-, hexec⟩ | ⟨-, hexec⟩ | ⟨htransaction, hactive, hexec⟩ <;> rw [hexec]
    · -- nothing is rolled back here, so the work itself must be all or nothing
      exact ⟨hwork s, hdone s rfl rfl⟩
    · exact ⟨rfl, rfl⟩
    · have hopen := fun hopen => hstrands ⟨htransaction, hactive, hopen⟩
      refine ⟨?_, allOrNothing_concluded hclosed hdone hopen⟩
      rw [hactive, Session.concluded_of_not_leavesOpen hopen]
      rcases exec work s.opened with ⟨f | a, t⟩ <;> rfl

/-- When the context names the same transaction all the time, work whose transaction stays open has
changed nothing. -/
theorem allOrNothing_inTransaction (hwork : work.Keeps Session.ofTransaction) :
    AllOrNothing s.store.tables effect (exec (inTransaction work) s) := by
  have hslot : work.Keeps Session.slot := fun s => congrArg Prod.fst (hwork s)
  rcases exec_inTransaction_cases hslot s with
    ⟨-, hexec⟩ | ⟨-, hexec⟩ | ⟨-, -, hexec⟩ <;> rw [hexec]
  · exact hdone s rfl rfl
  · rfl
  · by_cases hopen : s.LeavesOpen (exec work s.opened)
    · have hresult := hdone s.opened rfl rfl
      obtain ⟨f, hconcluded⟩ := Session.concluded_of_leavesOpen hopen
      obtain ⟨i, hi⟩ := hopen.resolve_right fun hne => hne (congrArg Prod.snd (hwork s.opened))
      rw [hconcluded]
      rcases hexec' : exec work s.opened with ⟨g | a, t⟩ <;> rw [hexec'] at hresult hi
      · exact hresult
      · cases hi
    · exact allOrNothing_concluded hclosed hdone hopen

end

end Model

/-! ### Creating, updating and deleting -/

inductive Request where
  | create (data : Record) (transaction : Option Nat)
  | update (data : Record) (condition : Option Record) (transaction : Option Nat)

namespace Model

variable {γ : Type} {view : Session → γ} {m : Model}

structure Keeps (view : Session → γ) (m : Model) : Prop where
  rules : ∀ r ∈ m.equipment.rules, ∀ a ∈ r.2, a.Keeps view
  generators : ∀ g ∈ m.equipment.generators, g.Keeps view
  modifiers : ∀ t ∈ m.table, t.Keeps view

theorem Keeps.of_draws (hview : Session.Apart view)
    (hrules : m.equipment.rules = Feature.rulesOf Feature.builtin)
    (hgenerators : ∀ g ∈ m.equipment.generators, g.Draws) (htable : ∀ t ∈ m.table, t.Draws) :
    m.Keeps view where
  rules := hrules ▸ Feature.keeps_rulesOf_builtin hview
  generators g hg f locale := (hgenerators g hg f locale).keeps hview
  modifiers t ht args scope := (htable t ht args scope).keeps hview

theorem Keeps.calls (h : m.Keeps view) {r : Routine} (hr : m.routine = .ok r) :
    ∀ g ∈ r.groups, ∀ o ∈ g.operations, ∀ c ∈ o.calls, c.modifier.Keeps view :=
  fun g hg o ho c hc => h.modifiers _ (Entity.registered_of_compile hr g hg o ho c hc)

theorem exec_prepared_of_routine {r : Routine} (hr : m.routine = .ok r) (mode : Mode)
    (before : RulePoint) (s : Session) : exec (m.prepared mode before) s = exec (do
      let _ ← prepare m.equipment m.entity r mode
      m.entity.runRules m.equipment.rules before
      return (← Run.context).latest) s := by
  unfold prepared
  rw [hr]
  rfl

theorem exec_prepared_of_error {f : Failure} (hr : m.routine = .error f) (mode : Mode)
    (before : RulePoint) (s : Session) : exec (m.prepared mode before) s = (.error f, s) := by
  unfold prepared
  rw [hr]
  rfl

theorem Keeps.prepared (h : m.Keeps view) (hview : Session.Apart view)
    (hidentifies : ∀ s t : Session, s.Identifies t → view t = view s) (mode : Mode)
    (before : RulePoint) : Run.Keeps view (m.prepared mode before) := by
  intro s
  cases hr : m.routine with
  | error f => rw [exec_prepared_of_error hr]
  | ok r =>
      have hprepare : Run.Keeps view (prepare m.equipment m.entity r mode) :=
        Preparation.keeps_prepare hview h.generators h.rules (h.calls hr)
          (Preparation.keeps_identify hidentifies)
      rw [exec_prepared_of_routine hr]
      refine Run.Keeps.bind hprepare (fun _ => .bind ?_ fun _ => .of_snd fun _ => rfl) s
      exact Preparation.keeps_runRules h.rules before

theorem Keeps.store_prepared (h : m.Keeps Session.store) (mode : Mode) (before : RulePoint) :
    Run.Keeps Session.store (m.prepared mode before) :=
  h.prepared Session.apart_store (fun _ _ hidentifies => hidentifies.store) mode before

theorem Keeps.ofStore_prepared (h : m.Keeps Session.ofStore) (mode : Mode) (before : RulePoint) :
    Run.Keeps Session.ofStore (m.prepared mode before) := by
  refine h.prepared Session.apart_ofStore (fun s t hidentifies => ?_) mode before
  rw [Session.ofStore, Session.ofStore, hidentifies.store, hidentifies.context]

theorem prepared_ok {mode : Mode} {before : RulePoint} {s t : Session} {values : Record}
    (h : exec (m.prepared mode before) s = (.ok values, t)) :
    values = t.context.latest ∧ ∃ r u changes, m.routine = .ok r ∧
      exec (prepare m.equipment m.entity r mode) s = (.ok changes, u) ∧
      exec (m.entity.runRules m.equipment.rules before) u = (.ok (), t) := by
  cases hr : m.routine with
  | error f =>
      rw [exec_prepared_of_error hr] at h
      cases h
  | ok r =>
      rw [exec_prepared_of_routine hr, exec_bind_eq_ok] at h
      obtain ⟨changes, u, hprepare, h⟩ := h
      rw [exec_bind_eq_ok] at h
      obtain ⟨_, v, hrules, h⟩ := h
      cases h
      exact ⟨rfl, r, u, changes, rfl, hprepare, hrules⟩

def creating (m : Model) : Run Record := do
  let values ← m.prepared .create .beforeCreate
  inStore (·.insert m.name values)

def updating (m : Model) : Run Record := do
  let values ← m.prepared .update .beforeUpdate
  let condition ← m.condition
  let count ← inStore (·.update m.name values condition)
  if count = 0 then Run.reject m.name (.noRecord condition.toValue)
  return values

def deleting (m : Model) (condition : Record) : Run Nat :=
  match m.deletionMark? with
  | some mark => inStore (·.update m.name mark condition)
  | none => inStore (·.delete m.name condition)

def carryOut (m : Model) : Request → Run Record
  | .create data transaction => m.create data transaction
  | .update data condition transaction => m.update data condition transaction

def asked (m : Model) : Request → Context
  | .create data transaction => { raw := data, locale := m.locale, transaction }
  | .update data condition transaction =>
    { raw := data, locale := m.locale, transaction, condition }

def work (m : Model) : Request → Run Record
  | .create .. => m.creating
  | .update .. => m.updating

theorem carryOut_eq (m : Model) (q : Request) : m.carryOut q = (do
    setContext fun _ => m.asked q
    inTransaction (m.work q)) := by
  cases q <;> rfl

theorem exec_condition (s : Session) : exec m.condition s =
    (match s.context.condition with
      | some condition => .ok condition
      | none => if (s.store.rows m.name).isEmpty then
          .error (.rejected ⟨some m.name, .noRecord .null⟩)
        else .error (.fault .missingPart), s) := by
  unfold condition
  rw [exec_bind_of_ok (exec_context s)]
  cases s.context.condition with
  | some condition => rfl
  | none =>
      dsimp only
      rw [exec_bind_of_ok (exec_get s)]
      cases h : (s.store.rows m.name).isEmpty <;> simp [Store.rows] at h <;> simp [h]

/-! ### What each operation does -/

def Created (m : Model) (before : Tables) (values : Record) (t : Session) : Prop :=
  values = t.context.latest ∧
    Store.Replaces m.name (Store.records m.name before ++ [values]) before t.store.tables

/-- The records that an update changes.  Its condition is the one that it was given, or that its
input gives, unless the rules of the model replace it. -/
def Changed (m : Model) (data : Record) (given : Option Record) (before : Tables)
    (values : Record) (t : Session) : Prop :=
  values = t.context.latest ∧ ∃ condition, t.context.condition = some condition ∧
    0 < (Store.records m.name before).countP (·.satisfies condition) ∧
    Store.Replaces m.name (Store.changedRows values condition (Store.records m.name before)) before
      t.store.tables ∧
    (m.Keeps Session.ofCondition → ∃ raw, m.entity.address data given = .ok (condition, raw))

/-- The records that a deletion removes or marks, and their number.  A deletion that removes them
leaves a table for the entity, also where there was none. -/
def Deleted (m : Model) (condition : Record) (before : Tables) (count : Nat) (t : Session) :
    Prop :=
  count = (Store.records m.name before).countP (·.satisfies condition) ∧
    match m.deletionMark? with
    | some mark =>
      Store.Replaces m.name (Store.changedRows mark condition (Store.records m.name before)) before
        t.store.tables ∧ Store.names t.store.tables = Store.names before
    | none =>
      Store.Replaces m.name ((Store.records m.name before).filter fun r => !r.satisfies condition)
        before t.store.tables ∧ m.name ∈ Store.names t.store.tables

def Effect (m : Model) : Request → Tables → Record → Session → Prop
  | .create _ _ => m.Created
  | .update data given _ => m.Changed data given

def Readies (m : Model) (q : Request) (before : Tables) (values : Record) (t : Session) : Prop :=
  ∃ s u, s.store.tables = before ∧
    s.context = { m.asked q with transaction := s.context.transaction } ∧
    u.context = t.context ∧
    match q with
    | .create .. => exec (m.prepared .create .beforeCreate) s = (.ok values, u)
    | .update .. => exec (m.prepared .update .beforeUpdate) s = (.ok values, u)

section

variable (hprepared : ∀ mode before, Run.Keeps view (m.prepared mode before))
  (htables : ∀ (s : Session) tables, view { s with store := { s.store with tables } } = view s)

include htables in
theorem keeps_deleting (condition : Record) : Run.Keeps view (m.deleting condition) := by
  unfold deleting
  split
  · exact .inStore fun s => htables s _
  · exact .inStore fun s => htables s _

include hprepared htables in
theorem keeps_work (q : Request) : Run.Keeps view (m.work q) := by
  cases q with
  | create => exact .bind (hprepared _ _) fun values => .inStore fun s => htables s _
  | update =>
      refine .bind (hprepared _ _) fun values => .bind (.of_snd fun s => ?_) fun condition => ?_
      · rw [exec_condition]
      · refine .bind (.inStore fun s => htables s _) fun count => ?_
        split
        · exact .bind (.reject _ _) fun _ => .pure _
        · exact .pure _

end

theorem Keeps.slot_work (h : m.Keeps Session.store) (q : Request) :
    (m.work q).Keeps Session.slot :=
  keeps_work (fun mode before s => congrArg Store.active (h.store_prepared mode before s))
    (fun _ _ => rfl) q

theorem Keeps.transaction_work (h : m.Keeps Session.ofStore) (q : Request) :
    (m.work q).Keeps Session.ofTransaction :=
  keeps_work (fun mode before s => congrArg (fun p => (p.1.active, p.2))
    (h.ofStore_prepared mode before s)) (fun _ _ => rfl) q

theorem address_of_prepared (hkept : m.Keeps Session.ofCondition) {s t : Session}
    {values data condition : Record} {given : Option Record} {transaction : Option Nat}
    (hasked : s.context = { m.asked (.update data given transaction) with
      transaction := s.context.transaction })
    (hprepared : exec (m.prepared .update .beforeUpdate) s = (.ok values, t))
    (hcondition : t.context.condition = some condition) :
    ∃ raw, m.entity.address data given = .ok (condition, raw) := by
  obtain ⟨_, r, u, changes, hr, hprepare, hrules⟩ := prepared_ok hprepared
  obtain ⟨condition', raw, haddress, hcondition'⟩ := Preparation.condition_of_prepare
    hkept.generators hkept.rules (hkept.calls hr) (by rw [hasked]; rfl) hprepare
  have hlast := Preparation.keeps_runRules (e := m.entity) hkept.rules .beforeUpdate u
  rw [hrules] at hlast
  change t.context.condition = u.context.condition at hlast
  rw [hcondition, hcondition'] at hlast
  cases hlast
  rw [hasked] at haddress
  exact ⟨raw, haddress⟩

section

variable (hkeeps : ∀ mode before, Run.Keeps Session.store (m.prepared mode before)) {s : Session}
include hkeeps

theorem creating_allOrNothing {data : Record} {transaction : Option Nat}
    (hasked : s.context = { m.asked (.create data transaction) with
      transaction := s.context.transaction }) :
    AllOrNothing s.store.tables (fun values t => m.Created s.store.tables values t ∧
      m.Readies (.create data transaction) s.store.tables values t) (exec m.creating s) := by
  unfold creating
  rw [exec_bind]
  have hstore := hkeeps .create .beforeCreate s
  rcases hprepared : exec (m.prepared .create .beforeCreate) s with ⟨f | values, t⟩
  all_goals
    rw [hprepared] at hstore
    dsimp only
  · exact congrArg Store.tables hstore
  · obtain ⟨tables, hinsert, hreplaces⟩ := t.store.insert_ok m.name values
    rw [exec_inStore, hinsert]
    refine ⟨⟨(prepared_ok hprepared).1, ?_⟩, s, t, rfl, hasked, rfl, hprepared⟩
    rw [← hstore]
    exact hreplaces

theorem updating_allOrNothing {data : Record} {given : Option Record} {transaction : Option Nat}
    (hasked : s.context = { m.asked (.update data given transaction) with
      transaction := s.context.transaction }) :
    AllOrNothing s.store.tables (fun values t => m.Changed data given s.store.tables values t ∧
      m.Readies (.update data given transaction) s.store.tables values t)
      (exec m.updating s) := by
  unfold updating
  rw [exec_bind]
  have hstore := hkeeps .update .beforeUpdate s
  rcases hprepared : exec (m.prepared .update .beforeUpdate) s with ⟨f | values, t⟩
  all_goals
    rw [hprepared] at hstore
    change t.store = s.store at hstore
    dsimp only
  · exact congrArg Store.tables hstore
  · rw [exec_bind, exec_condition]
    cases hcondition : t.context.condition with
    | none =>
        dsimp only
        cases (t.store.rows m.name).isEmpty <;> exact congrArg Store.tables hstore
    | some condition =>
        obtain ⟨tables, hupdate, hreplaces, -, hsame⟩ := t.store.update_ok m.name values condition
        dsimp only
        rw [exec_bind, exec_inStore, hupdate]
        dsimp only
        by_cases hcount : (t.store.rows m.name).countP (·.satisfies condition) = 0
        · -- the update fails only after it was made, but it has changed no record
          rw [if_pos hcount]
          exact (hsame hcount).trans (congrArg Store.tables hstore)
        · rw [if_neg hcount]
          rw [hstore] at hreplaces hcount
          exact ⟨⟨(prepared_ok hprepared).1, condition, hcondition, Nat.pos_of_ne_zero hcount,
            hreplaces, fun hkept => address_of_prepared hkept hasked hprepared hcondition⟩,
            s, t, rfl, hasked, rfl, hprepared⟩

theorem work_allOrNothing {tables : Tables} {q : Request} (htables : s.store.tables = tables)
    (hasked : s.context = { m.asked q with transaction := s.context.transaction }) :
    AllOrNothing tables (fun values t => m.Effect q tables values t ∧ m.Readies q tables values t)
      (exec (m.work q) s) := by
  subst htables
  cases q with
  | create data transaction => exact creating_allOrNothing hkeeps hasked
  | update data given transaction => exact updating_allOrNothing hkeeps hasked

end

theorem exec_carryOut_eq (q : Request) (s : Session) : exec (m.carryOut q) s =
    exec (inTransaction (m.work q)) { s with context := m.asked q } := by
  rw [carryOut_eq]
  rfl

theorem Effect.closed {q : Request} {tables : Tables} {values : Record} {t : Session}
    (h : m.Effect q tables values t) : m.Effect q tables values (t.closed t.store.tables) := by
  cases q <;> exact h

theorem Readies.closed {q : Request} {tables : Tables} {values : Record} {t : Session}
    (h : m.Readies q tables values t) : m.Readies q tables values (t.closed t.store.tables) := by
  cases q <;> exact h

theorem allOrNothing_carryOut (h : m.Keeps Session.ofStore) (q : Request) (s : Session) :
    AllOrNothing s.store.tables
      (fun values t => m.Effect q s.store.tables values t ∧ m.Readies q s.store.tables values t)
      (exec (m.carryOut q) s) := by
  rw [exec_carryOut_eq]
  refine allOrNothing_inTransaction (s := { s with context := m.asked q })
    (fun _ _ hdone => ⟨hdone.1.closed, hdone.2.closed⟩) (fun s' htables hcontext => ?_)
    (h.transaction_work q)
  have hkeeps : ∀ mode before, Run.Keeps Session.store (m.prepared mode before) :=
    fun mode before s => congrArg Prod.fst (h.ofStore_prepared mode before s)
  exact work_allOrNothing hkeeps htables hcontext

def Strands (m : Model) (q : Request) (s : Session) : Prop :=
  Session.Strands { s with context := m.asked q } (m.work q)

instance {q : Request} {s : Session} : Decidable (m.Strands q s) :=
  inferInstanceAs (Decidable (Session.Strands _ _))

theorem atomic_carryOut_iff (h : m.Keeps Session.store) (q : Request) (s : Session) :
    s.Atomic (exec (m.carryOut q) s) (m.Effect q s.store.tables) ↔ ¬m.Strands q s := by
  rw [exec_carryOut_eq]
  refine atomic_inTransaction_iff (s := { s with context := m.asked q })
    (fun _ _ hdone => hdone.closed) (fun s' htables hcontext => ?_) (h.slot_work q)
  exact (work_allOrNothing h.store_prepared htables hcontext).imp fun _ _ hdone => hdone.1

theorem not_strands (h : m.Keeps Session.ofStore) {q : Request}
    (hwork : ∀ s f, (exec (m.work q) s).1 = .error f → f.isInterruption = false) (s : Session) :
    ¬m.Strands q s := by
  rintro ⟨-, -, ⟨i, hi⟩ | htransaction⟩
  · cases hwork _ _ hi
  · exact htransaction (congrArg Prod.snd (h.transaction_work q _))

theorem exec_deleting (s : Session) (condition : Record) : ∃ count tables,
    exec (m.deleting condition) s = (.ok count, { s with store := { s.store with tables } }) ∧
      m.Deleted condition s.store.tables count { s with store := { s.store with tables } } := by
  unfold deleting Deleted
  cases m.deletionMark? with
  | some mark =>
      obtain ⟨tables, hupdate, hreplaces, hnames, _⟩ := s.store.update_ok m.name mark condition
      have hexec := exec_inStore (·.update m.name mark condition) s
      rw [hupdate] at hexec
      exact ⟨_, tables, hexec, rfl, hreplaces, hnames⟩
  | none =>
      obtain ⟨tables, hdelete, hreplaces, hmem⟩ := s.store.delete_ok m.name condition
      have hexec := exec_inStore (·.delete m.name condition) s
      rw [hdelete] at hexec
      exact ⟨_, tables, hexec, rfl, hreplaces, hmem⟩

theorem deleting_not_strands (condition : Record) (s : Session) :
    ¬s.Strands (m.deleting condition) := by
  rintro ⟨-, -, hopen⟩
  obtain ⟨count, tables, hexec, -⟩ := exec_deleting (m := m) s.opened condition
  rw [hexec] at hopen
  rcases hopen with ⟨i, hi⟩ | htransaction
  · cases hi
  · exact htransaction rfl

theorem atomic_delete (condition : Record) (transaction : Option Nat) (s : Session) :
    s.Atomic (exec (m.delete condition transaction) s) (m.Deleted condition s.store.tables) := by
  unfold delete
  cases condition.isEmpty with
  | true => exact ⟨rfl, rfl⟩
  | false =>
      refine (atomic_inTransaction_iff
        (s := { s with context := { transaction, condition := some condition } })
        (fun _ _ hdeleted => hdeleted) (fun s' htables _ => ?_)
        (keeps_deleting (fun _ _ => rfl) condition)).mpr (deleting_not_strands condition _)
      obtain ⟨count, tables, hexec, hdeleted⟩ := exec_deleting (m := m) s' condition
      rw [hexec]
      exact htables ▸ hdeleted

theorem exec_carryOut_of_strands (h : m.Keeps Session.store) {q : Request} {s : Session}
    (hstrands : m.Strands q s) : ∃ f t, exec (m.carryOut q) s = (.error f, t) ∧
      t.store.active = some ⟨s.store.nextId, s.store.tables⟩ ∧
      (t.store.tables = s.store.tables ∨ ∃ values, m.Effect q s.store.tables values t) := by
  obtain ⟨f, hexec⟩ := exec_inTransaction_of_strands (h.slot_work q) hstrands
  rw [exec_carryOut_eq]
  refine ⟨f, _, hexec, h.slot_work q _, ?_⟩
  have hdone := work_allOrNothing h.store_prepared
    (s := Session.opened { s with context := m.asked q }) (q := q) rfl rfl
  exact (hdone.imp fun _ _ hdone => hdone.1).unchanged_or_effect

/-- Whatever is in the store, and with or without a transaction of the caller: as long as no rule
writes to the store, an operation that fails leaves the tables as they were, one that succeeds does
its own work and nothing else, and the open transaction stays the one that was open.  The only
exception is a creation or an update that leaves its own transaction open, and then fails. -/
theorem atomic_unless_strands (h : m.Keeps Session.store) (s : Session) :
    (∀ q, (s.Atomic (exec (m.carryOut q) s) (m.Effect q s.store.tables) ↔ ¬m.Strands q s) ∧
      (m.Strands q s → ∃ f t, exec (m.carryOut q) s = (.error f, t) ∧
        t.store.active = some ⟨s.store.nextId, s.store.tables⟩ ∧
        (t.store.tables = s.store.tables ∨ ∃ values, m.Effect q s.store.tables values t))) ∧
    ∀ condition transaction, s.Atomic (exec (m.delete condition transaction) s)
      (m.Deleted condition s.store.tables) :=
  ⟨fun q => ⟨atomic_carryOut_iff h q s, exec_carryOut_of_strands h⟩,
    fun condition transaction => atomic_delete condition transaction s⟩

def note : Model where
  entity := {
    name := "note"
    fields := [
      { name := "text" },
      { name := "title", optional := true, modifiers := [
        { kind := "Activator", name := "copy", args := [.fieldRef "text"] }] }] }

def oneNote : Store :=
  .ofTables [("note", [[("text", .text "a"), ("title", .text "a")]])]

def noteAfter (work : Run Unit) : Model where
  entity := { note.entity with
    features := [{ name := Feature.atLeastOneNotNull.name, options := .list [.text "text"] }] }
  equipment := {
    rules := [(ruleRoute Feature.atLeastOneNotNull.name RulePoint.beforeCreate.name,
      [.before true fun _ => work])] }

theorem keeps_noteAfter {work : Run Unit} (hwork : work.Keeps Session.store) :
    (noteAfter work).Keeps Session.store where
  rules r hr a ha := by
    cases List.mem_singleton.mp hr
    cases List.mem_singleton.mp ha
    exact Action.keeps_before true fun _ => hwork
  generators g hg f locale :=
    (Generator.draws_of_mem_builtin hg f locale).keeps Session.apart_store
  modifiers t ht args scope := (ModifierTable.draws_builtin ht args scope).keeps Session.apart_store

/-- A creation, a creation that lacks a field, and an update; then creations that are cancelled
while a rule is at work, or whose rule turns the context away from the transaction. -/
theorem note_atomic_unless_strands :
    note.Keeps Session.store ∧
    (exec (note.create [("text", .text "b")] none) (still oneNote)).2.store.tables =
      [("note", [[("text", .text "a"), ("title", .text "a")],
        [("text", .text "b"), ("title", .text "b")]])] ∧
    (still oneNote).Atomic (exec (note.create [("text", .text "b")] none) (still oneNote))
      (note.Created oneNote.tables) ∧
    (exec (note.create [("title", .text "b")] none) (still oneNote)).2.store.tables =
      [("note", [[("text", .text "a"), ("title", .text "a")]])] ∧
    (still oneNote).Atomic (exec (note.create [("title", .text "b")] none) (still oneNote))
      (note.Created oneNote.tables) ∧
    (still oneNote).Atomic
      (exec (note.update [("text", .text "b")] (some [("text", .text "a")]) none) (still oneNote))
      (note.Changed [("text", .text "b")] (some [("text", .text "a")]) oneNote.tables) ∧
    (∀ work, work = Run.fail (.interrupted .cancelled) ∨
        work = (Run.setContext fun c => { c with transaction := none }) →
      (noteAfter work).Keeps Session.store ∧
      ¬(still oneNote).Atomic
        (exec ((noteAfter work).create [("text", .text "b")] none) (still oneNote))
        ((noteAfter work).Created oneNote.tables) ∧
      ∃ f t, exec ((noteAfter work).create [("text", .text "b")] none) (still oneNote) =
        (.error f, t) ∧ t.store.active = some ⟨1, oneNote.tables⟩) := by
  have hkeeps : note.Keeps Session.store :=
    .of_draws Session.apart_store rfl (fun _ hg => Generator.draws_of_mem_builtin hg)
      fun _ ht => ModifierTable.draws_builtin ht
  have hrequest := fun q => ((atomic_unless_strands hkeeps (still oneNote)).1 q).1.mpr
  refine ⟨hkeeps, rfl, hrequest (.create [("text", .text "b")] none) (by decide +kernel), rfl,
    hrequest (.create [("title", .text "b")] none) (by decide +kernel),
    hrequest (.update [("text", .text "b")] (some [("text", .text "a")]) none) (by decide +kernel),
    fun work hwork => ?_⟩
  have hkeeps : (noteAfter work).Keeps Session.store := by
    rcases hwork with rfl | rfl
    · exact keeps_noteAfter (.fail _)
    · exact keeps_noteAfter fun _ => rfl
  have hstrands : (noteAfter work).Strands (.create [("text", .text "b")] none)
      (still oneNote) := by
    rcases hwork with rfl | rfl <;> decide +kernel
  obtain ⟨hatomic, hopen⟩ := (atomic_unless_strands hkeeps (still oneNote)).1
    (.create [("text", .text "b")] none)
  obtain ⟨f, t, hexec, hactive, -⟩ := hopen hstrands
  exact ⟨hkeeps, fun h => hatomic.mp h hstrands, f, t, hexec, hactive⟩

end Model

end FieldPipeline
