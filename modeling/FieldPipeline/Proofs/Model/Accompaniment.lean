import Mathlib.Logic.Relation
import FieldPipeline.Proofs.Model.Request
import FieldPipeline.Proofs.Preparation.Failing
import FieldPipeline.Proofs.Preparation.Stamping
import FieldPipeline.Proofs.Routine.Isolation

/-!
Records with a tracked state and its time.  Every creation and every update keeps the two together,
also when it fails; a deletion that marks records instead of removing them writes to the store what
no stamping has seen, and can give a record a state without its time.
-/

namespace FieldPipeline

open Run Feature.StateTracking

/-- Whether a record that has a listed state in a field has the time of the state. -/
def Field.Accompanied (f : Field) (r : Record) : Prop :=
  (r.getOrNull f.name).isNull = false → (r.getOrNull f.name).plain ∈ f.values.getD [] →
    (r.getOrNull (stampName f.name (r.getOrNull f.name).plain)).isNull = false

theorem Record.isNull_getOrNull_of_not_nullAt {r : Record} {name : String} {v : Value}
    (h : ¬r.NullAt name) (hv : r.get? name = some v) : v.isNull = false := by
  by_contra hnull
  exact h ⟨v, hv, by simpa using hnull⟩

theorem Field.Accompanied.update {f : Field} {r changes : Record} (h : f.Accompanied r)
    (hdistinct : changes.names.Nodup)
    (hstamps : ∀ state ∈ f.values.getD [], ¬changes.NullAt (stampName f.name state))
    (hstate : (changes.getOrNull f.name).isNull = false →
      (changes.getOrNull (stampName f.name (changes.getOrNull f.name).plain)).isNull = false ∨
        (r.getOrNull (stampName f.name (changes.getOrNull f.name).plain)).isNull = false) :
    f.Accompanied (r.update changes) := by
  intro hnonnull hlisted
  -- what the record has after the changes it has by them or had before
  have hkept : ∀ state ∈ f.values.getD [], (r.getOrNull (stampName f.name state)).isNull = false →
      ((r.update changes).getOrNull (stampName f.name state)).isNull = false := by
    intro state hmem hr
    rw [Record.getOrNull_update hdistinct]
    cases hget : changes.get? (stampName f.name state) with
    | none => exact hr
    | some v => exact Record.isNull_getOrNull_of_not_nullAt (hstamps state hmem) hget
  cases hget : changes.get? f.name with
  | none =>
      have hsame : (r.update changes).getOrNull f.name = r.getOrNull f.name := by
        rw [Record.getOrNull_update hdistinct, hget]
        rfl
      rw [hsame] at hnonnull hlisted ⊢
      exact hkept _ hlisted (h hnonnull hlisted)
  | some v =>
      have hnew : (r.update changes).getOrNull f.name = changes.getOrNull f.name := by
        rw [Record.getOrNull_update hdistinct]
        unfold Record.getOrNull
        rw [hget]
        rfl
      rw [hnew] at hnonnull hlisted ⊢
      rcases hstate hnonnull with hwritten | hformer
      · rw [Record.getOrNull_update hdistinct]
        cases hstamp : changes.get? (stampName f.name (changes.getOrNull f.name).plain) with
        | none =>
            rw [Record.getOrNull, hstamp] at hwritten
            cases hwritten
        | some w => exact Record.isNull_getOrNull_of_not_nullAt (hstamps _ hlisted) hstamp
      · exact hkept _ hlisted hformer

def Field.Unstamps (f : Field) (mark : String × Value) (r : Record) : Prop :=
  mark.1 = f.name ∧ mark.2.isNull = false ∧ mark.2.plain ∈ f.values.getD [] ∧
      (r.getOrNull (stampName f.name mark.2.plain)).isNull = true ∨
    mark.1 = stampName f.name (r.getOrNull f.name).plain ∧ mark.2.isNull = true ∧
      (r.getOrNull f.name).isNull = false ∧ (r.getOrNull f.name).plain ∈ f.values.getD []

theorem Field.accompanied_mark_iff {f : Field} {mark : String × Value} {r : Record}
    (h : f.Accompanied r) : f.Accompanied (r.update [mark]) ↔ ¬f.Unstamps mark r := by
  obtain ⟨name, v⟩ := mark
  have hmarked : r.update [(name, v)] = r.put name v := rfl
  unfold Accompanied Unstamps
  rw [hmarked]
  simp only [Record.getOrNull_put]
  by_cases hname : name = f.name
  · subst hname
    have hne : ∀ state, f.name ≠ stampName f.name state := fun state => (stampName_ne _ state).symm
    simp [hne]
  · simp only [hname, false_and, false_or, if_false]
    by_cases hstamp : name = stampName f.name (r.getOrNull f.name).plain
    · cases hv : v.isNull <;> simp [hstamp, hv]
    · simp only [hstamp, false_and, not_false_eq_true, if_false, iff_true]
      exact h

namespace Model

variable {m : Model} {u : FeatureUse} {f : Field}

theorem Plain.prepares_ok (h : m.Plain) {r : Routine} (hr : m.routine = .ok r) {mode : Mode}
    {values : Record} {existing : Option Record} (hprepares : m.Prepares r mode values existing) :
    ∃ d : Declaration, d.link ⟨Feature.builtin, Generator.builtin⟩ = .ok m.entity ∧
      m.entity.compile ModifierTable.builtin m.mergesChains = .ok r ∧
      ∃ s t, exec (prepare {} m.entity r mode) s = (.ok values, t) ∧
        t.context.existing = existing := by
  obtain ⟨d, hlink⟩ := h.linked
  obtain ⟨s, t, hprepare, hexisting⟩ := hprepares
  rw [h.equipment] at hprepare
  exact ⟨d, hlink, h.table ▸ hr, s, t, hprepare, hexisting⟩

theorem Plain.isInterruption_of_prepared (h : m.Plain) {mode : Mode} {point : RulePoint}
    (hidle : ∀ name facts, Feature.work name point facts = pure ()) {s t : Session}
    {failure : Failure} (hexec : exec (m.prepared mode point) s = (.error failure, t)) :
    failure.isInterruption = false := by
  obtain ⟨d, hlink⟩ := h.linked
  cases hr : m.routine with
  | error g =>
      rw [exec_prepared_of_error hr] at hexec
      cases hexec
      unfold routine at hr
      rw [h.table] at hr
      cases Entity.compile_error (d.sound_of_link rfl hlink).distinct hr <;> rfl
  | ok r =>
      rw [exec_prepared h.regular mode point hidle hr, h.equipment, Preparation.exec_prepare]
        at hexec
      rcases hsteps : exec (Preparation.steps {} m.entity r mode) (s.begun mode) with ⟨g | _, u⟩ <;>
        rw [hsteps] at hexec <;> cases hexec
      have hcompile : m.entity.compile ModifierTable.builtin m.mergesChains = .ok r := h.table ▸ hr
      exact Preparation.isInterruption_of_steps hlink hcompile hsteps

theorem Plain.isInterruption_of_work (h : m.Plain) (q : Request) {s t : Session}
    {failure : Failure} (hexec : exec (m.work q) s = (.error failure, t)) :
    failure.isInterruption = false := by
  cases q with
  | create =>
      rcases exec_bind_eq_error.mp hexec with hprepared | ⟨values, u, _, hinsert⟩
      · exact h.isInterruption_of_prepared (fun _ _ => rfl) hprepared
      · cases hinsert
  | update =>
      rcases exec_bind_eq_error.mp hexec with hprepared | ⟨values, u, _, hexec⟩
      · exact h.isInterruption_of_prepared (fun _ _ => rfl) hprepared
      · rcases exec_bind_eq_error.mp hexec with hcondition | ⟨condition, v, _, hexec⟩
        · rw [exec_condition] at hcondition
          split at hcondition
          · cases hcondition
          · split at hcondition <;> cases hcondition <;> rfl
        · rcases exec_bind_eq_error.mp hexec with hupdate | ⟨count, w, _, hexec⟩
          · cases hupdate
          · split at hexec <;> cases hexec
            rfl

theorem Plain.not_strands (h : m.Plain) (q : Request) (s : Session) : ¬m.Strands q s :=
  Model.not_strands (h.regular.keeps Session.apart_ofStore) (fun s _ hwork =>
    h.isInterruption_of_work q (t := (exec (m.work q) s).2) (Prod.ext hwork rfl)) s

section

variable (h : m.Plain) (hlast : m.entity.TracksLast u f)
include h hlast

theorem Prepares.not_nullAt {r : Routine} (hr : m.routine = .ok r) {mode : Mode} {values : Record}
    {existing : Option Record} (hprepares : m.Prepares r mode values existing) {state : String}
    (hstate : state ∈ f.values.getD []) : ¬values.NullAt (stampName f.name state) := by
  obtain ⟨d, hlink, hcompile, s, t, hprepare, -⟩ := h.prepares_ok hr hprepares
  exact Preparation.not_nullAt_stampName hlink hcompile hlast hprepare hstate

theorem Prepares.accompanies {r : Routine} (hr : m.routine = .ok r) {mode : Mode} {values : Record}
    {existing : Option Record} (hprepares : m.Prepares r mode values existing)
    (hstate : (values.getOrNull f.name).isNull = false) :
    (values.getOrNull (stampName f.name (values.getOrNull f.name).plain)).isNull = false ∨
      ∃ former, existing = some former ∧
        (former.getOrNull (stampName f.name (values.getOrNull f.name).plain)).isNull = false := by
  obtain ⟨d, hlink, hcompile, s, t, hprepare, hexisting⟩ := h.prepares_ok hr hprepares
  refine (Preparation.accompanies_of_prepare hlast (d.sound_of_link rfl hlink) rfl hprepare
    hstate).imp_right fun hformer => ?_
  unfold Context.former at hformer
  rw [hexisting] at hformer
  cases existing with
  | none => cases hformer
  | some former => exact ⟨former, rfl, hformer⟩

theorem Prepares.accompanied {r : Routine} (hr : m.routine = .ok r) {values : Record}
    (hprepares : m.Prepares r .create values none) : f.Accompanied values := by
  intro hstate _
  rcases hprepares.accompanies h hlast hr hstate with hwritten | ⟨former, hnone, _⟩
  · exact hwritten
  · cases hnone

theorem Updates.accompanied {s : Store} {data changes condition raw r : Record}
    {given existing : Option Record} {routine : Routine} {transaction : Option Nat}
    (hupdates : m.Updates s data given changes routine condition raw existing)
    (hone : m.IdentifiesOne s (.update data given transaction)) (hr : r ∈ s.rows m.name)
    (hsatisfies : r.satisfies condition = true) (hbefore : f.Accompanied r) :
    f.Accompanied (r.update changes) := by
  refine hbefore.update hupdates.distinct (fun state hstate =>
    hupdates.prepares.not_nullAt h hlast hupdates.routine hstate) fun hstate => ?_
  refine (hupdates.prepares.accompanies h hlast hupdates.routine hstate).imp_right ?_
  rintro ⟨former, rfl, hformer⟩
  rcases hupdates.knows with ⟨hnone, -⟩ | ⟨_, hknown, hfind⟩
  · cases hnone
  · cases hknown
    rwa [Store.findOne_unique m.entity.name (hone condition raw hupdates.address) hr hsatisfies
      hfind] at hformer

theorem accompanied_carryOut {s : Session} {q : Request}
    (hone : m.IdentifiesOne s.store q) (hbefore : ∀ r ∈ s.store.rows m.name, f.Accompanied r) :
    ∀ r ∈ (exec (m.carryOut q) s).2.store.rows m.name, f.Accompanied r := by
  intro r' hr'
  rcases becomes_or_prepares h.regular hr' with
    ⟨r, hr, hbecomes⟩ | ⟨routine, hroutine, hprepares⟩
  · generalize (exec (m.carryOut q) s).1 = result at hbecomes
    cases hbecomes with
    | failed | created => exact hbefore _ hr
    | updated hupdates =>
        split
        · rename_i hsatisfies
          exact hupdates.accompanied h hlast hone hr hsatisfies (hbefore r hr)
        · exact hbefore r hr
  · exact hprepares.accompanied h hlast hroutine

end

/-! ### Deletions -/

inductive Demand where
  | write (q : Request)
  | delete (condition : Record) (transaction : Option Nat)

def meet (m : Model) (s : Session) : Demand → Store
  | .write q => (exec (m.carryOut q) s).2.store
  | .delete condition transaction => (exec (m.delete condition transaction) s).2.store

def remaining (m : Model) (condition : Record) (rs : List Record) : List Record :=
  match m.deletionMark? with
  | some mark => Store.changedRows mark condition rs
  | none => rs.filter fun r => !r.satisfies condition

section

variable {s : Session} (hs : s.store.active = none)
include hs

theorem exists_exec_deleting (condition : Record) :
    ∃ count t, exec (inTransaction (m.deleting condition)) s = (.ok count, t) := by
  cases htransaction : s.context.transaction with
  | some id =>
      obtain ⟨count, tables, hexec, -⟩ := exec_deleting (m := m) s condition
      exact ⟨count, _, (exec_inTransaction_of_some htransaction).trans hexec⟩
  | none =>
      obtain ⟨count, tables, hexec, -⟩ := exec_deleting (m := m) s.opened condition
      have hopen : ¬s.LeavesOpen (exec (m.deleting condition) s.opened) := fun hopen =>
        deleting_not_strands condition s ⟨htransaction, hs, hopen⟩
      rw [exec_inTransaction_of_none (keeps_deleting (fun _ _ => rfl) condition) htransaction hs,
        Session.concluded_of_not_leavesOpen hopen, hexec]
      exact ⟨count, _, rfl⟩

theorem exists_exec_delete {condition : Record} (hcondition : condition ≠ [])
    (transaction : Option Nat) :
    ∃ count t, exec (m.delete condition transaction) s = (.ok count, t) := by
  obtain ⟨entry, condition, rfl⟩ := List.exists_cons_of_ne_nil hcondition
  exact exists_exec_deleting (s := { s with
    context := { transaction, condition := some (entry :: condition) } }) hs _

theorem rows_delete (condition : Record) (transaction : Option Nat) :
    (exec (m.delete condition transaction) s).2.store.rows m.name =
      if condition = [] then s.store.rows m.name
      else m.remaining condition (s.store.rows m.name) := by
  split
  · rename_i hempty
    rw [hempty]
    rfl
  · rename_i hcondition
    obtain ⟨count, t, hexec⟩ := exists_exec_delete (m := m) hs hcondition transaction
    have hdeleted := (atomic_delete (m := m) condition transaction s).2
    rw [hexec] at hdeleted ⊢
    obtain ⟨-, hreplaces⟩ := hdeleted
    unfold remaining
    cases hmark : m.deletionMark? <;> rw [hmark] at hreplaces <;> exact hreplaces.1.records

end

def Singles (m : Model) (s : Store) : Demand → Prop
  | .write q => m.IdentifiesOne s q
  | .delete _ _ => True

/-- Whether a demand is a deletion that marks a record with a state whose time it lacks, or takes
the time of its state away. -/
def Mismarks (m : Model) (f : Field) (s : Store) : Demand → Prop
  | .write _ => False
  | .delete condition _ => condition ≠ [] ∧ ∃ mark, m.deletionMark? = some [mark] ∧
      ∃ r ∈ s.rows m.name, r.satisfies condition = true ∧ f.Unstamps mark r

/-- The stores that demands of some kind lead to, whatever the clock shows and the generators
give. -/
def Leads (m : Model) (kind : Store → Demand → Prop) : Store → Store → Prop :=
  Relation.ReflTransGen fun s t => ∃ d, kind s d ∧ m.Singles s d ∧
    ∃ session : Session, session.store = s ∧ m.meet session d = t

theorem deletionMark?_eq {mark : Record} (h : m.deletionMark? = some mark) :
    ∃ entry, mark = [entry] := by
  obtain ⟨u, -, rfl⟩ := Option.map_eq_some_iff.mp h
  exact ⟨_, rfl⟩

theorem accompanied_delete_iff {s : Session} (hs : s.store.active = none) {condition : Record}
    {transaction : Option Nat} (hbefore : ∀ r ∈ s.store.rows m.name, f.Accompanied r) :
    (∀ r ∈ (exec (m.delete condition transaction) s).2.store.rows m.name, f.Accompanied r) ↔
      ¬m.Mismarks f s.store (.delete condition transaction) := by
  rw [rows_delete hs condition transaction]
  unfold Mismarks
  by_cases hempty : condition = []
  · simpa [hempty] using hbefore
  · rw [if_neg hempty]
    unfold remaining
    cases hmark : m.deletionMark? with
    | none =>
        simp only [reduceCtorEq, false_and, exists_false, and_false, not_false_eq_true, iff_true]
        exact fun r hr => hbefore r (List.mem_of_mem_filter hr)
    | some mark =>
        obtain ⟨entry, rfl⟩ := deletionMark?_eq hmark
        constructor
        · rintro hafter ⟨-, mark, hsame, r, hr, hsatisfies, hunstamps⟩
          cases hsame
          refine (Field.accompanied_mark_iff (hbefore r hr)).mp ?_ hunstamps
          have hmarked := hafter _ (List.mem_map_of_mem hr)
          rwa [if_pos hsatisfies] at hmarked
        · intro hmarks r' hr'
          obtain ⟨r, hr, rfl⟩ := List.mem_map.mp hr'
          split
          · rename_i hsatisfies
            refine (Field.accompanied_mark_iff (hbefore r hr)).mpr fun hunstamps => ?_
            exact hmarks ⟨hempty, entry, rfl, r, hr, hsatisfies, hunstamps⟩
          · exact hbefore r hr

section

variable (h : m.Plain) (hlast : m.entity.TracksLast u f) {s : Store}
include h

theorem active_meet {session : Session} (hs : session.store.active = none) (d : Demand) :
    (m.meet session d).active = none := by
  cases d with
  | write q =>
      have hkeeps := h.regular.keeps Session.apart_store
      have hatomic := (atomic_carryOut_iff hkeeps q session).mpr (h.not_strands q session)
      exact hatomic.1.trans hs
  | delete condition transaction => exact (atomic_delete condition transaction session).1.trans hs

include hlast

theorem accompanied_step_iff {session : Session} (hs : session.store.active = none) {d : Demand}
    (hone : m.Singles session.store d)
    (hbefore : ∀ r ∈ session.store.rows m.name, f.Accompanied r) :
    (∀ r ∈ (m.meet session d).rows m.name, f.Accompanied r) ↔ ¬m.Mismarks f session.store d := by
  cases d with
  | write q => exact iff_of_true (accompanied_carryOut h hlast hone hbefore) id
  | delete condition transaction => exact accompanied_delete_iff hs hbefore

theorem Leads.accompanied (hs : m.Leads (fun s d => ¬m.Mismarks f s d) Store.empty s) :
    s.active = none ∧ ∀ r ∈ s.rows m.name, f.Accompanied r := by
  -- no transaction is open in between, so that what is asked for is done
  induction hs with
  | refl => exact ⟨rfl, nofun⟩
  | tail _ hstep ih =>
      obtain ⟨hactive, hbefore⟩ := ih
      obtain ⟨d, hmarks, hone, session, rfl, rfl⟩ := hstep
      exact ⟨active_meet h hactive d,
        (accompanied_step_iff h hlast hactive hone hbefore).mpr hmarks⟩

/-- Records that have a state have its time until a deletion marks one of them with a state whose
time it lacks, or takes the time away.  When no mark of a deletion is a state or null for a time,
that is in every store that is reached. -/
theorem accompanied_of_leads :
    (∀ s, m.Leads (fun s d => ¬m.Mismarks f s d) Store.empty s →
      (∀ r ∈ s.rows m.name, f.Accompanied r) ∧
        ∀ d, m.Singles s d → ∀ session : Session, session.store = s →
          ((∀ r ∈ (m.meet session d).rows m.name, f.Accompanied r) ↔ ¬m.Mismarks f s d)) ∧
    ((∀ mark, m.deletionMark? = some [mark] →
        (mark.1 = f.name → mark.2.isNull = false → mark.2.plain ∉ f.values.getD []) ∧
          ∀ state ∈ f.values.getD [], mark.1 = stampName f.name state → mark.2.isNull = false) →
      ∀ s, m.Leads (fun _ _ => True) Store.empty s → ∀ r ∈ s.rows m.name, f.Accompanied r) := by
  constructor
  · intro s hs
    obtain ⟨hactive, hrows⟩ := Leads.accompanied h hlast hs
    refine ⟨hrows, fun d hone session hsession => ?_⟩
    subst hsession
    exact accompanied_step_iff h hlast hactive hone hrows
  · intro hspares s hs
    -- no deletion can mismark a record then, so that this is a case of the first part
    refine (Leads.accompanied h hlast (Relation.ReflTransGen.mono ?_ _ _ hs)).2
    rintro s t ⟨d, -, hone, hmeets⟩
    refine ⟨d, fun hmarks => ?_, hone, hmeets⟩
    cases d with
    | write q => exact hmarks
    | delete condition transaction =>
        obtain ⟨-, mark, hmark, r, -, -, hunstamps⟩ := hmarks
        obtain ⟨hstate, htime⟩ := hspares mark hmark
        rcases hunstamps with ⟨hname, hvalue, hlisted, -⟩ | ⟨hname, hnull, -, hlisted⟩
        · exact hstate hname hvalue hlisted
        · rw [htime _ hlisted hname] at hnull
          cases hnull

end

def ticketStatus : Field where
  name := "status"
  type := "enum"
  values := some ["open", "closed"]
  displayName := "status"

def ticketStamp (state : String) : Field where
  name := stampName "status" state
  type := "datetime"
  optional := true
  readOnly := true
  writeOnce := true
  displayName := stampName "status" state

def ticketStates : FeatureUse where
  name := "state_tracking"
  options := Feature.StateTracking.optionsOf (.text "status") false

def ticket : Model where
  entity := {
    name := "ticket"
    fields := [{ name := "id", type := "integer", displayName := "id" }, ticketStatus,
      ticketStamp "open", ticketStamp "closed"]
    features := [ticketStates, {
      name := "logical_deletion"
      options := Feature.Deletion.optionsOf (.text "status") (.text "closed") false }]
    key := ["id"]
    uniqueKeys := [["id"]] }

def ticketDeclaration : Declaration where
  name := "ticket"
  fields := [{ name := "id", type := "integer" },
    { name := "status", type := "enum", values := some ["open", "closed"] }]
  key := some (.single "id")
  features := [{ name := "state_tracking", options := .text "status" },
    { name := "logical_deletion", options := .dict [(.text "status", .text "closed")] }]

theorem ticket_plain : ticket.Plain :=
  ⟨⟨ticketDeclaration, by with_unfolding_all rfl⟩, rfl, rfl⟩

theorem ticket_tracksLast : ticket.entity.TracksLast ticketStates ticketStatus where
  tracks := {
    mem := by simp [ticket]
    tracked := by with_unfolding_all rfl
    stamps := by
      rintro states hstates state hstate
      cases hstates
      refine ⟨ticketStamp state, ?_, rfl, rfl, BaseType.named?_name .datetime⟩
      simp only [List.mem_cons, List.not_mem_nil, or_false] at hstate
      rcases hstate with rfl | rfl <;> simp [ticket] }
  named := rfl
  last := ⟨[], _, rfl, by simp [Feature.stateTracking]⟩

def newTicket : Demand :=
  .write (.create [("id", .int 1), ("status", .text "open")] none)

def oneTicket : Store :=
  ticket.meet (still Store.empty) newTicket

def closing : Demand :=
  .delete [("id", .int 1)] none

theorem ticket_leads :
    ticket.Leads (fun s d => ¬ticket.Mismarks ticketStatus s d) Store.empty oneTicket :=
  .single ⟨newTicket, id, trivial, still Store.empty, rfl, rfl⟩

theorem ticket_deletionMark? : ticket.deletionMark? = some [("status", .text "closed")] := by
  with_unfolding_all rfl

theorem rows_oneTicket : (oneTicket.rows ticket.name).map (fun r =>
    (r.satisfies [("id", .int 1)], (r.getOrNull (stampName "status" "closed")).isNull)) =
      [(true, true)] := by
  decide +kernel

theorem closing_mismarks : ticket.Mismarks ticketStatus oneTicket closing := by
  obtain ⟨r, hrows, hr⟩ := List.map_eq_singleton_iff.mp rows_oneTicket
  simp only [Prod.mk.injEq] at hr
  refine ⟨List.cons_ne_nil _ _, _, ticket_deletionMark?, r, by simp [hrows], hr.1,
    .inl ⟨rfl, rfl, ?_, hr.2⟩⟩
  simp [ticketStatus, Value.plain]

/-- A ticket that is closed by its deletion has a state without the time of it. -/
theorem closing_not_accompanied : ticket.Plain ∧
    ticket.entity.TracksLast ticketStates ticketStatus ∧
    ticket.Leads (fun s d => ¬ticket.Mismarks ticketStatus s d) Store.empty oneTicket ∧
    (∀ r ∈ oneTicket.rows ticket.name, ticketStatus.Accompanied r) ∧
    ¬∀ r ∈ (ticket.meet (still oneTicket) closing).rows ticket.name,
      ticketStatus.Accompanied r := by
  obtain ⟨hrows, hstep⟩ :=
    (accompanied_of_leads ticket_plain ticket_tracksLast).1 oneTicket ticket_leads
  refine ⟨ticket_plain, ticket_tracksLast, ticket_leads, hrows, fun hafter => ?_⟩
  exact (hstep closing trivial (still oneTicket) rfl).mp hafter closing_mismarks

end Model

end FieldPipeline
