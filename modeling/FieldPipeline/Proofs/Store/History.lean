import Mathlib.Data.List.Nodup
import FieldPipeline.Proofs.Store

/-!
What any sequence of calls does to a store, whoever makes them and whatever handles they are made
with.  The handle in the slot of a store is the only one that was given out and not closed since;
no other one can be closed, and to roll it back is to return to the tables of its beginning.
-/

namespace FieldPipeline.Store

/-- What a call can be given as a transaction: one of the store by its number, one of another
store, which has an identity of its own and a text that shows it, or nothing at all. -/
inductive Handle where
  | own (id : Nat)
  | foreign (shown : String)
  | absent
  deriving DecidableEq

def Handle.number? : Handle → Option Nat
  | .own id => some id
  | _ => none

def closing (s : Store) (close : Option Nat → Except Failure Unit × Store) :
    Handle → Except Failure Unit × Store
  | .own id => close (some id)
  | .foreign shown => (.error (.misuse (.notOpen shown)), s)
  | .absent => close none

inductive Command where
  | begin
  | commit (tx : Handle)
  | rollback (tx : Handle)
  | findOne (entity : String) (condition : Record)
  | insert (entity : String) (values : Record)
  | update (entity : String) (values condition : Record)
  | delete (entity : String) (condition : Record)

inductive Answer where
  | opened (tx : Nat)
  | closed
  | found (record : Option Record)
  | inserted (record : Record)
  | counted (number : Nat)

def Command.perform (s : Store) : Command → Except Failure Answer × Store
  | .begin => s.begin.map (·.map .opened) id
  | .commit tx => (s.closing s.commit tx).map (·.map fun _ => .closed) id
  | .rollback tx => (s.closing s.rollback tx).map (·.map fun _ => .closed) id
  | .findOne entity condition => (.ok (.found (s.findOne entity condition)), s)
  | .insert entity values => (s.insert entity values).map (·.map .inserted) id
  | .update entity values condition => (s.update entity values condition).map (·.map .counted) id
  | .delete entity condition => (s.delete entity condition).map (·.map .counted) id

structure Event where
  command : Command
  answer : Except Failure Answer
  before : Store
  after : Store

def Command.event (c : Command) (s : Store) : Event :=
  ⟨c, (c.perform s).1, s, (c.perform s).2⟩

def history (s : Store) : List Command → List Event
  | [] => []
  | c :: cs => c.event s :: history (c.event s).after cs

namespace Event

def opened? (e : Event) : Option Nat :=
  match e.answer with
  | .ok (.opened tx) => some tx
  | _ => none

def closed? (e : Event) : Option Nat :=
  match e.command, e.answer with
  | .commit tx, .ok _ | .rollback tx, .ok _ => tx.number?
  | _, _ => none

end Event

def opened (es : List Event) : List Nat := es.filterMap Event.opened?

def closed (es : List Event) : List Nat := es.filterMap Event.closed?

def unclosed (es : List Event) : List Nat := (opened es).filter (· ∉ closed es)

def openHandle? (s : Store) : Option Nat := s.active.map Transaction.id

/-- How a handle is refused that is not the open one.  Nothing at all is no handle, and it fails in
a way of its own when there is nothing to close either. -/
def refusal (s : Store) : Handle → Failure
  | .own id => .misuse (.notOpen (s.describe (some id)))
  | .foreign shown => .misuse (.notOpen shown)
  | .absent => if s.active = none then .fault .missingPart else .misuse (.notOpen (s.describe none))

namespace Event

def Refuses (e : Event) (f : Failure) : Prop :=
  e.answer = .error f ∧ e.after = e.before

/-- What a call has to do after some others, as far as transactions are concerned. -/
def Obeys (past : List Event) (e : Event) : Prop :=
  match e.command with
  | .begin =>
    if unclosed past = [] then
      ∃ tx, e.answer = .ok (.opened tx) ∧ (∀ earlier ∈ opened past, earlier < tx) ∧
        e.after.tables = e.before.tables
    else e.Refuses (.misuse .transactionOpen)
  | .commit tx =>
    if ∃ id ∈ unclosed past, tx = .own id then
      e.answer = .ok .closed ∧ e.after.tables = e.before.tables
    else e.Refuses (e.before.refusal tx)
  | .rollback tx =>
    if ∃ id ∈ unclosed past, tx = .own id then
      e.answer = .ok .closed ∧
        ∃ b ∈ past, b.opened? = tx.number? ∧ e.after.tables = b.before.tables
    else e.Refuses (e.before.refusal tx)
  | _ => e.after.active = e.before.active ∧ e.after.nextId = e.before.nextId

inductive Turn (e : Event) : Prop where
  | opens (slot : e.before.active = none) (opened : e.opened? = some e.before.nextId)
      (closed : e.closed? = none)
      (active : e.after.active = some ⟨e.before.nextId, e.before.tables⟩)
      (nextId : e.after.nextId = e.before.nextId + 1)
  | closes (t : Transaction) (slot : e.before.active = some t) (opened : e.opened? = none)
      (closed : e.closed? = some t.id) (active : e.after.active = none)
      (nextId : e.after.nextId = e.before.nextId)
  | keeps (opened : e.opened? = none) (closed : e.closed? = none)
      (active : e.after.active = e.before.active) (nextId : e.after.nextId = e.before.nextId)

end Event

/-! ### Single calls -/

section

variable {s : Store}

theorem begin_of_none (h : s.active = none) : s.begin =
    (.ok s.nextId, { s with active := some ⟨s.nextId, s.tables⟩, nextId := s.nextId + 1 }) := by
  unfold begin
  rw [h]

theorem begin_of_some {t : Transaction} (h : s.active = some t) :
    s.begin = (.error (.misuse .transactionOpen), s) := by
  unfold begin
  rw [h]

theorem closing_of_open {t : Transaction} (h : s.active = some t)
    (finish : Transaction → Tables) : s.closing (s.close · finish) (.own t.id) =
      (.ok (), { s with active := none, tables := finish t }) := by
  simp only [closing, close, h, if_true]

theorem closing_of_ne {tx : Handle} (h : ∀ t, s.active = some t → tx ≠ .own t.id)
    (finish : Transaction → Tables) :
    s.closing (s.close · finish) tx = (.error (s.refusal tx), s) := by
  cases tx with
  | foreign shown => rfl
  | absent =>
      cases hactive : s.active with
      | none => simp [closing, close, refusal, hactive]
      | some t => simp [closing, close, refusal, hactive]
  | own id =>
      cases hactive : s.active with
      | none => simp [closing, close, refusal, hactive]
      | some t =>
          have hne : ¬t.id = id := fun heq => h t hactive (by rw [heq])
          simp [closing, close, refusal, hactive, hne]

end

theorem turn_closing (s : Store) {c : Command} {tx : Handle}
    (hc : c = .commit tx ∨ c = .rollback tx) (finish : Transaction → Tables) :
    Event.Turn ⟨c, (s.closing (s.close · finish) tx).1.map fun _ => .closed, s,
      (s.closing (s.close · finish) tx).2⟩ := by
  by_cases hopen : ∃ t, s.active = some t ∧ tx = .own t.id
  · obtain ⟨t, hactive, rfl⟩ := hopen
    rw [closing_of_open hactive]
    refine .closes t hactive rfl ?_ rfl rfl
    rcases hc with rfl | rfl <;> rfl
  · rw [closing_of_ne fun t hactive htx => hopen ⟨t, hactive, htx⟩]
    refine .keeps rfl ?_ rfl rfl
    rcases hc with rfl | rfl <;> rfl

theorem turn_event (c : Command) (s : Store) : (c.event s).Turn := by
  cases c with
  | begin =>
      cases hactive : s.active with
      | none =>
          simp only [Command.event, Command.perform, begin_of_none hactive]
          exact .opens hactive rfl rfl rfl rfl
      | some t =>
          simp only [Command.event, Command.perform, begin_of_some hactive]
          exact .keeps rfl rfl rfl rfl
  | commit tx => exact turn_closing s (.inl rfl) fun _ => s.tables
  | rollback tx => exact turn_closing s (.inr rfl) Transaction.opened
  | findOne entity condition => exact .keeps rfl rfl rfl rfl
  | insert entity values => exact .keeps rfl rfl rfl rfl
  | update entity values condition => exact .keeps rfl rfl rfl rfl
  | delete entity condition => exact .keeps rfl rfl rfl rfl

/-! ### Runs of calls -/

section

variable {past : List Event} {s : Store} {e : Event}

theorem opened_snoc : opened (past ++ [e]) = opened past ++ e.opened?.toList := by
  cases h : e.opened? <;> simp [opened, h]

theorem closed_snoc : closed (past ++ [e]) = closed past ++ e.closed?.toList := by
  cases h : e.closed? <;> simp [closed, h]

theorem opened_snoc_none (h : e.opened? = none) : opened (past ++ [e]) = opened past := by
  rw [opened_snoc, h, Option.toList_none, List.append_nil]

theorem closed_snoc_none (h : e.closed? = none) : closed (past ++ [e]) = closed past := by
  rw [closed_snoc, h, Option.toList_none, List.append_nil]

/-- What holds of a store after some calls.  Only the number in the slot is open, the numbers that
were given out are below the next one, and the open transaction keeps the tables of its opening. -/
structure Follows (past : List Event) (s : Store) : Prop where
  slot : unclosed past = s.openHandle?.toList
  fresh : ∀ tx ∈ opened past, tx < s.nextId
  ascending : (opened past).Pairwise (· < ·)
  once : (closed past).Nodup
  known : ∀ tx ∈ closed past, tx ∈ opened past
  snapshot : ∀ t, s.active = some t →
    ∃ b ∈ past, b.opened? = some t.id ∧ b.before.tables = t.opened

namespace Follows

theorem unclosed_eq_nil (h : Follows past s) : unclosed past = [] ↔ s.active = none := by
  simp [h.slot, openHandle?]

theorem exists_unclosed (h : Follows past s) {tx : Handle} :
    (∃ id ∈ unclosed past, tx = .own id) ↔ ∃ t, s.active = some t ∧ tx = .own t.id := by
  simp [h.slot, openHandle?]

theorem of_opens (h : Follows past e.before) (slot : e.before.active = none)
    (hopened : e.opened? = some e.before.nextId) (hclosed : e.closed? = none)
    (hactive : e.after.active = some ⟨e.before.nextId, e.before.tables⟩)
    (hnextId : e.after.nextId = e.before.nextId + 1) : Follows (past ++ [e]) e.after := by
  have hopen : opened (past ++ [e]) = opened past ++ [e.before.nextId] := by
    rw [opened_snoc, hopened]
    rfl
  have hclose : closed (past ++ [e]) = closed past := closed_snoc_none hclosed
  have hnew : e.before.nextId ∉ closed past := fun hmem =>
    Nat.lt_irrefl _ (h.fresh _ (h.known _ hmem))
  have hnone : (opened past).filter (· ∉ closed past) = [] := h.unclosed_eq_nil.mpr slot
  refine ⟨?_, ?_, ?_, ?_, ?_, ?_⟩
  · rw [unclosed, hopen, hclose, List.filter_append, hnone]
    simp [openHandle?, hactive, hnew]
  · intro tx htx
    rw [hopen, List.mem_append, List.mem_singleton] at htx
    rcases htx with hpast | rfl
    · have := h.fresh tx hpast
      omega
    · omega
  · rw [hopen, List.pairwise_append]
    exact ⟨h.ascending, List.pairwise_singleton _ _, by simpa using h.fresh⟩
  · exact hclose ▸ h.once
  · intro tx htx
    rw [hopen]
    exact List.mem_append_left _ (h.known tx (hclose ▸ htx))
  · intro t ht
    rw [hactive] at ht
    cases ht
    exact ⟨e, by simp, hopened, rfl⟩

theorem of_closes (h : Follows past e.before) {t : Transaction} (slot : e.before.active = some t)
    (hopened : e.opened? = none) (hclosed : e.closed? = some t.id)
    (hactive : e.after.active = none) (hnextId : e.after.nextId = e.before.nextId) :
    Follows (past ++ [e]) e.after := by
  have hopen : opened (past ++ [e]) = opened past := opened_snoc_none hopened
  have hclose : closed (past ++ [e]) = closed past ++ [t.id] := by
    rw [closed_snoc, hclosed]
    rfl
  have hslot : (opened past).filter (· ∉ closed past) = [t.id] := by
    rw [← unclosed, h.slot, openHandle?, slot]
    rfl
  have hmem : t.id ∈ (opened past).filter (· ∉ closed past) := by
    rw [hslot]
    exact List.mem_singleton_self _
  rw [List.mem_filter, decide_eq_true_eq] at hmem
  refine ⟨?_, ?_, ?_, ?_, ?_, ?_⟩
  · have hfilter : unclosed (past ++ [e]) =
        ((opened past).filter (· ∉ closed past)).filter (· ≠ t.id) := by
      rw [unclosed, hopen, hclose, List.filter_filter]
      simp [not_or, Bool.and_comm]
    rw [hfilter, hslot]
    simp [openHandle?, hactive]
  · rw [hopen, hnextId]
    exact h.fresh
  · exact hopen ▸ h.ascending
  · rw [hclose]
    exact List.nodup_append.mpr ⟨h.once, List.nodup_singleton _, by
      rintro a ha b hb rfl
      exact hmem.2 (List.mem_singleton.mp hb ▸ ha)⟩
  · intro tx htx
    rw [hclose, List.mem_append, List.mem_singleton] at htx
    rw [hopen]
    exact htx.elim (h.known tx) fun heq => heq ▸ hmem.1
  · intro t' ht'
    rw [hactive] at ht'
    cases ht'

theorem of_keeps (h : Follows past e.before) (hopened : e.opened? = none)
    (hclosed : e.closed? = none) (hactive : e.after.active = e.before.active)
    (hnextId : e.after.nextId = e.before.nextId) : Follows (past ++ [e]) e.after := by
  have hopen : opened (past ++ [e]) = opened past := opened_snoc_none hopened
  have hclose : closed (past ++ [e]) = closed past := closed_snoc_none hclosed
  refine ⟨?_, ?_, hopen ▸ h.ascending, hclose ▸ h.once, ?_, ?_⟩
  · rw [unclosed, hopen, hclose, openHandle?, hactive]
    exact h.slot
  · rw [hopen, hnextId]
    exact h.fresh
  · rw [hopen, hclose]
    exact h.known
  · intro t ht
    obtain ⟨b, hb, hsnapshot⟩ := h.snapshot t (hactive ▸ ht)
    exact ⟨b, List.mem_append_left _ hb, hsnapshot⟩

theorem snoc (h : Follows past e.before) (turn : e.Turn) : Follows (past ++ [e]) e.after := by
  cases turn with
  | opens slot opened closed active nextId => exact h.of_opens slot opened closed active nextId
  | closes t slot opened closed active nextId => exact h.of_closes slot opened closed active nextId
  | keeps opened closed active nextId => exact h.of_keeps opened closed active nextId

theorem refuses (h : Follows past s) {c : Command} {tx : Handle}
    (hne : ¬∃ id ∈ unclosed past, tx = .own id) (finish : Transaction → Tables) :
    Event.Refuses ⟨c, (s.closing (s.close · finish) tx).1.map fun _ => .closed, s,
      (s.closing (s.close · finish) tx).2⟩ (s.refusal tx) := by
  rw [h.exists_unclosed] at hne
  rw [closing_of_ne fun t hactive htx => hne ⟨t, hactive, htx⟩]
  exact ⟨rfl, rfl⟩

theorem obeys (h : Follows past s) (c : Command) : (c.event s).Obeys past := by
  cases c with
  | begin =>
      simp only [Event.Obeys, Command.event, Command.perform, h.unclosed_eq_nil]
      split
      · rename_i hactive
        rw [begin_of_none hactive]
        exact ⟨s.nextId, rfl, h.fresh, rfl⟩
      · rename_i hactive
        obtain ⟨t, ht⟩ := Option.ne_none_iff_exists'.mp hactive
        rw [begin_of_some ht]
        exact ⟨rfl, rfl⟩
  | commit tx =>
      simp only [Event.Obeys, Command.event]
      split
      · rename_i hopen
        obtain ⟨t, hactive, rfl⟩ := h.exists_unclosed.mp hopen
        have hclose := closing_of_open hactive fun _ => s.tables
        exact ⟨congrArg (·.1.map fun _ => Answer.closed) hclose, congrArg (·.2.tables) hclose⟩
      · rename_i hne
        exact h.refuses hne fun _ => s.tables
  | rollback tx =>
      simp only [Event.Obeys, Command.event]
      split
      · rename_i hopen
        obtain ⟨t, hactive, rfl⟩ := h.exists_unclosed.mp hopen
        have hclose := closing_of_open hactive Transaction.opened
        obtain ⟨b, hb, hopened, htables⟩ := h.snapshot t hactive
        exact ⟨congrArg (·.1.map fun _ => Answer.closed) hclose, b, hb, hopened,
          (congrArg (·.2.tables) hclose).trans htables.symm⟩
      · rename_i hne
        exact h.refuses hne Transaction.opened
  | findOne entity condition => exact ⟨rfl, rfl⟩
  | insert entity values => exact ⟨rfl, rfl⟩
  | update entity values condition => exact ⟨rfl, rfl⟩
  | delete entity condition => exact ⟨rfl, rfl⟩

end Follows

theorem follows_nil (h : s.active = none) : Follows [] s :=
  ⟨by rw [openHandle?, h]; rfl, nofun, .nil, .nil, nofun, fun t ht => by rw [h] at ht; cases ht⟩

theorem follows_history (h : Follows past s) (cs : List Command) :
    ∀ before e after, history s cs = before ++ e :: after →
      e.Obeys (past ++ before) ∧ Follows (past ++ before ++ [e]) e.after := by
  induction cs generalizing past s with
  | nil =>
      intro before e after heq
      cases before <;> cases heq
  | cons c cs ih =>
      intro before e after heq
      have hstep : Follows (past ++ [c.event s]) (c.event s).after :=
        Follows.snoc (e := c.event s) h (turn_event c s)
      cases before with
      | nil =>
          obtain ⟨rfl, rfl⟩ := List.cons.inj heq
          rw [List.append_nil]
          exact ⟨h.obeys c, hstep⟩
      | cons first before =>
          obtain ⟨rfl, hrest⟩ := List.cons.inj heq
          simpa using ih hstep before e after hrest

end

/-- Whoever calls a store and with whatever handles: numbers ascend, nothing is closed twice, each
call does what it has to after those before it, and what is open then is what is in the slot. -/
theorem transactions_of_history (tables : Tables) (cs : List Command) :
    (opened (history (ofTables tables) cs)).Pairwise (· < ·) ∧
      (closed (history (ofTables tables) cs)).Nodup ∧
      ∀ past e rest, history (ofTables tables) cs = past ++ e :: rest →
        e.Obeys past ∧ unclosed (past ++ [e]) = e.after.openHandle?.toList := by
  have hnil : Follows [] (ofTables tables) := follows_nil rfl
  have hend : ∃ s, Follows (history (ofTables tables) cs) s := by
    rcases List.eq_nil_or_concat' (history (ofTables tables) cs) with
      hes | ⟨es, e, hes⟩
    · exact ⟨_, hes ▸ hnil⟩
    · exact ⟨e.after, by simpa [← hes] using (follows_history hnil cs es e [] hes).2⟩
  obtain ⟨s, hs⟩ := hend
  refine ⟨hs.ascending, hs.once, fun past e rest heq => ?_⟩
  obtain ⟨hobeys, hfollows⟩ := follows_history hnil cs past e rest heq
  exact ⟨hobeys, hfollows.slot⟩

-- A second beginning and a second closing are refused.
example : closed (history empty
    [.begin, .begin, .insert "user" [], .rollback (.foreign "<Transaction 1>"), .rollback (.own 1),
      .commit (.own 1), .begin, .commit (.own 2)]) = [1, 2] := rfl

end FieldPipeline.Store
