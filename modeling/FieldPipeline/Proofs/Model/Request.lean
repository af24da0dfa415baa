import FieldPipeline.Proofs.Model.Atomicity

/-!
What the creations and updates of a model do to the records of its entity, when only its own rules
are at work.
-/

namespace FieldPipeline

open Run

namespace Model

structure Plain (m : Model) : Prop where
  linked : ∃ d : Declaration, d.link ⟨Feature.builtin, Generator.builtin⟩ = .ok m.entity
  table : m.table = ModifierTable.builtin
  equipment : m.equipment = {}

/-- Whether a model is one of a linked entity with the built-in features, and with generators and
modifiers that only draw on the sources. -/
structure Regular (m : Model) : Prop where
  linked : ∃ (catalogue : Catalogue) (d : Declaration), catalogue.features = Feature.builtin ∧
    d.link catalogue = .ok m.entity
  features : m.equipment.features = Feature.builtin
  rules : m.equipment.rules = Feature.rulesOf Feature.builtin
  generators : ∀ g ∈ m.equipment.generators, g.Draws
  modifiers : ∀ t ∈ m.table, t.Draws
  named : ∀ t ∈ m.table, '~' ∉ t.name.toList

theorem Plain.regular {m : Model} (h : m.Plain) : m.Regular where
  linked := by
    obtain ⟨d, hlink⟩ := h.linked
    exact ⟨_, d, rfl, hlink⟩
  features := by rw [h.equipment]
  rules := by rw [h.equipment]
  generators := by
    rw [h.equipment]
    exact fun g hg => Generator.draws_of_mem_builtin hg
  modifiers := h.table ▸ fun _ ht => ModifierTable.draws_builtin ht
  named := h.table ▸ ModifierTable.notMem_tilde_builtin

namespace Regular

variable {m : Model} {r : Routine}

theorem sound (h : m.Regular) : m.entity.Sound := by
  obtain ⟨_, d, hfeatures, hlink⟩ := h.linked
  exact d.sound_of_link hfeatures hlink

theorem draws (h : m.Regular) (hr : m.routine = .ok r) : r.Draws :=
  fun g hg o ho c hc => h.modifiers _ (Entity.registered_of_compile hr g hg o ho c hc)

theorem keeps (h : m.Regular) {γ : Type} {view : Session → γ} (hview : Session.Apart view) :
    m.Keeps view :=
  .of_draws hview h.rules h.generators h.modifiers

end Regular

theorem exec_runRules_idle {e : Entity} (h : e.Sound) {point : RulePoint}
    (hidle : ∀ name facts, Feature.work name point facts = pure ()) (s : Session) :
    exec (e.runRules (Feature.rulesOf Feature.builtin) point) s = (.ok (), s) := by
  have hfeatures : ∀ uses ⊆ e.features, exec
      (uses.forM (FeatureUse.runRules (Feature.rulesOf Feature.builtin) e point)) s =
        (.ok (), s) := by
    intro uses huses
    induction uses with
    | nil => rfl
    | cons u uses ih =>
        have hu := FeatureUse.exec_runRules (h.known u (huses (by simp))) e point s
        rw [hidle] at hu
        rw [exec_forM_cons, exec_bind_of_ok hu]
        exact ih fun v hv => huses (by simp [hv])
  exact hfeatures e.features fun _ h => h

theorem exec_prepared {m : Model} (h : m.Regular) (mode : Mode) (point : RulePoint)
    (hidle : ∀ name facts, Feature.work name point facts = pure ()) {r : Routine}
    (hr : m.routine = .ok r) (s : Session) : exec (m.prepared mode point) s =
      match exec (prepare m.equipment m.entity r mode) s with
      | (.ok _, t) => (.ok t.context.latest, t)
      | (.error f, t) => (.error f, t) := by
  rw [exec_prepared_of_routine hr, exec_bind]
  rcases exec (prepare m.equipment m.entity r mode) s with ⟨f | values, t⟩
  · rfl
  · dsimp only
    rw [h.rules, exec_bind_of_ok (exec_runRules_idle h.sound hidle t),
      exec_bind_of_ok (exec_context t)]
    rfl

variable {m : Model}

def Prepares (m : Model) (r : Routine) (mode : Mode) (values : Record)
    (existing : Option Record) : Prop :=
  ∃ s t, exec (prepare m.equipment m.entity r mode) s = (.ok values, t) ∧
    t.context.existing = existing

structure Updates (m : Model) (store : Store) (data : Record) (given : Option Record)
    (changes : Record) (r : Routine) (condition raw : Record) (existing : Option Record) :
    Prop where
  routine : m.routine = .ok r
  prepares : m.Prepares r .update changes existing
  address : m.entity.address data given = .ok (condition, raw)
  distinct : changes.names.Nodup
  knows : Preparation.Knows m.equipment m.entity r store condition raw existing
  touches : ∀ name, changes.has name = true → m.entity.Touches r raw existing name
  alters : ∀ name, ¬m.entity.Alters r name → changes.NullAsGiven raw name

theorem Updates.of_tables_eq {store store' : Store} {data changes condition raw : Record}
    {given existing : Option Record} {r : Routine} (htables : store.tables = store'.tables)
    (h : m.Updates store data given changes r condition raw existing) :
    m.Updates store' data given changes r condition raw existing := by
  refine { h with knows := ?_ }
  rcases h.knows with hunknown | ⟨former, hexisting, hfind⟩
  · exact .inl hunknown
  · refine .inr ⟨former, hexisting, ?_⟩
    unfold Store.findOne at hfind ⊢
    rw [← htables]
    exact hfind

def Carries (m : Model) (before after : Store) (values : Record) : Request → Prop
  | .create _ _ => (∃ r, m.routine = .ok r ∧ m.Prepares r .create values none) ∧
      after.rows m.name = before.rows m.name ++ [values]
  | .update data given _ => ∃ r condition raw existing,
      m.Updates before data given values r condition raw existing ∧
        after.rows m.name = Store.changedRows values condition (before.rows m.name)

theorem exists_prepare_of_prepared (h : m.Regular) {mode : Mode} {point : RulePoint}
    (hidle : ∀ name facts, Feature.work name point facts = pure ()) {s t : Session}
    {values : Record} (hprepared : exec (m.prepared mode point) s = (.ok values, t)) :
    ∃ r, m.routine = .ok r ∧
      exec (prepare m.equipment m.entity r mode) s = (.ok values, t) := by
  obtain ⟨_, r, _, _, hr, _⟩ := prepared_ok hprepared
  rw [exec_prepared h mode point hidle hr] at hprepared
  rcases hprepare : exec (prepare m.equipment m.entity r mode) s with ⟨f | changes, u⟩ <;>
    rw [hprepare] at hprepared
  · cases hprepared
  · cases hprepared
    obtain ⟨_, _, _, _, _, rfl⟩ := Preparation.exec_prepare_ok hprepare
    exact ⟨r, hr, hprepare⟩

theorem prepares_of_prepared (h : m.Regular) {s t : Session} {values : Record}
    (hnone : s.context.existing = none)
    (hprepared : exec (m.prepared .create .beforeCreate) s = (.ok values, t)) :
    ∃ r, m.routine = .ok r ∧ m.Prepares r .create values none := by
  obtain ⟨r, hr, hprepare⟩ := exists_prepare_of_prepared h (fun _ _ => rfl) hprepared
  refine ⟨r, hr, s, t, hprepare, ?_⟩
  obtain ⟨v, u, rfl, hlater, rfl, _⟩ := Preparation.exec_prepare_ok hprepare
  exact ((Preparation.writesOnly_later h.sound h.rules h.generators (h.draws hr) .create).writes
    hlater).existing.trans hnone

theorem updates_of_prepared (h : m.Regular) {s t : Session} {data values : Record}
    {given : Option Record} {transaction : Option Nat}
    (hasked : s.context = { m.asked (.update data given transaction) with
      transaction := s.context.transaction })
    (hprepared : exec (m.prepared .update .beforeUpdate) s = (.ok values, t)) :
    ∃ r condition raw existing, t.context.condition = some condition ∧
      m.Updates s.store data given values r condition raw existing := by
  obtain ⟨r, hr, hprepare⟩ := exists_prepare_of_prepared h (fun _ _ => rfl) hprepared
  obtain ⟨condition, raw, existing, haddress, hcondition, hexisting, _, hdistinct, hknows,
    htouches, halters⟩ := Preparation.exec_prepare_update_ok h.sound h.rules h.generators
      (h.draws hr) (by rw [hasked]; rfl) hprepare
  rw [hasked] at haddress
  exact ⟨r, condition, raw, existing, hcondition, hr, ⟨s, t, hprepare, hexisting⟩, haddress,
    hdistinct, hknows, htouches, halters⟩

/-- A request that fails leaves the records of the entity as they are; one that succeeds does what
it says. -/
theorem exec_carryOut (h : m.Regular) (q : Request) (s : Session) :
    match (exec (m.carryOut q) s).1 with
    | .error _ => (exec (m.carryOut q) s).2.store.rows m.name = s.store.rows m.name
    | .ok values => m.Carries s.store (exec (m.carryOut q) s).2.store values q := by
  have hdone := allOrNothing_carryOut (h.keeps Session.apart_ofStore) q s
  rcases hexec : exec (m.carryOut q) s with ⟨f | values, t⟩ <;> rw [hexec] at hdone
  · exact congrArg (Store.records m.name) hdone
  · obtain ⟨heffect, s', u, htables, hasked, hcontext, hprepared⟩ := hdone
    cases q with
    | create data transaction =>
        exact ⟨prepares_of_prepared h (by rw [hasked]; rfl) hprepared, heffect.2.records⟩
    | update data given transaction =>
        obtain ⟨_, condition, hcondition, _, hreplaces, _⟩ := heffect
        obtain ⟨r, condition', raw, existing, hcondition', hupdates⟩ :=
          updates_of_prepared h hasked hprepared
        rw [hcontext, hcondition] at hcondition'
        cases hcondition'
        exact ⟨r, condition, raw, existing, hupdates.of_tables_eq htables, hreplaces.records⟩

inductive Becomes (m : Model) (s : Store) (r : Record) :
    Request → Except Failure Record → Record → Prop where
  | failed {q : Request} {f : Failure} : Becomes m s r q (.error f) r
  | created {data values : Record} {transaction : Option Nat} :
      Becomes m s r (.create data transaction) (.ok values) r
  | updated {data changes condition raw : Record} {given existing : Option Record}
      {routine : Routine} {transaction : Option Nat} :
      m.Updates s data given changes routine condition raw existing →
      Becomes m s r (.update data given transaction) (.ok changes)
        (if r.satisfies condition then r.update changes else r)

theorem rows_carryOut (h : m.Regular) (q : Request) (s : Session) :
    ∃ kept created, (exec (m.carryOut q) s).2.store.rows m.name = kept ++ created ∧
      List.Forall₂ (m.Becomes s.store · q (exec (m.carryOut q) s).1) (s.store.rows m.name) kept ∧
      ∀ values ∈ created, ∃ r, m.routine = .ok r ∧ m.Prepares r .create values none := by
  have hcarries := exec_carryOut h q s
  cases hresult : (exec (m.carryOut q) s).1 with
  | error f =>
      rw [hresult] at hcarries
      exact ⟨_, [], by simpa using hcarries, List.forall₂_same.mpr fun _ _ => .failed, by simp⟩
  | ok values =>
      rw [hresult] at hcarries
      cases q with
      | create data transaction =>
          obtain ⟨hprepares, hrows⟩ := hcarries
          exact ⟨_, [values], hrows, List.forall₂_same.mpr fun _ _ => .created,
            List.forall_mem_singleton.mpr hprepares⟩
      | update data given transaction =>
          obtain ⟨r, condition, raw, existing, hupdates, hrows⟩ := hcarries
          refine ⟨_, [], by simpa using hrows, ?_, by simp⟩
          exact List.forall₂_map_right_iff.mpr (List.forall₂_same.mpr fun _ _ => .updated hupdates)

theorem exists_becomes (h : m.Regular) {s : Session} (q : Request) {i : Nat} {r : Record}
    (hrow : (s.store.rows m.name)[i]? = some r) :
    ∃ r', ((exec (m.carryOut q) s).2.store.rows m.name)[i]? = some r' ∧
      m.Becomes s.store r q (exec (m.carryOut q) s).1 r' := by
  obtain ⟨kept, created, hrows, hkept, _⟩ := rows_carryOut h q s
  obtain ⟨hi, rfl⟩ := List.getElem?_eq_some_iff.mp hrow
  have hi' : i < kept.length := hkept.length_eq ▸ hi
  refine ⟨kept[i], ?_, hkept.get hi hi'⟩
  rw [hrows, List.getElem?_append_left hi', List.getElem?_eq_getElem hi']

theorem becomes_or_prepares (h : m.Regular) {s : Session} {q : Request} {r' : Record}
    (hr' : r' ∈ (exec (m.carryOut q) s).2.store.rows m.name) :
    (∃ r ∈ s.store.rows m.name, m.Becomes s.store r q (exec (m.carryOut q) s).1 r') ∨
      ∃ r, m.routine = .ok r ∧ m.Prepares r .create r' none := by
  obtain ⟨kept, created, hrows, hkept, hcreated⟩ := rows_carryOut h q s
  rw [hrows, List.mem_append] at hr'
  exact hr'.imp (exists_of_mem_forall₂ hkept) (hcreated r')

def IdentifiesOne (m : Model) (s : Store) : Request → Prop
  | .create _ _ => True
  | .update data given _ => ∀ condition raw, m.entity.address data given = .ok (condition, raw) →
      (s.rows m.name).countP (·.satisfies condition) ≤ 1

/-- Whether a request leads from a store to another one, whatever the clock shows and the
generators give. -/
def Step (m : Model) (s : Store) (q : Request) (t : Store) : Prop :=
  m.IdentifiesOne s q ∧
    ∃ session : Session, session.store = s ∧ (exec (m.carryOut q) session).2.store = t

inductive Runs (m : Model) : Store → List Request → Store → Prop where
  | nil {s : Store} : Runs m s [] s
  | cons {s t u : Store} {q : Request} {qs : List Request} :
      m.Step s q t → Runs m t qs u → Runs m s (q :: qs) u

/-- The stores that requests can lead to when there are no records to begin with. -/
def Reaches (m : Model) (s : Store) : Prop :=
  ∃ qs, m.Runs Store.empty qs s

theorem Runs.keeps {P : Store → Prop} {s t : Store} {qs : List Request} (hruns : m.Runs s qs t)
    (hstep : ∀ q ∈ qs, ∀ session : Session, m.IdentifiesOne session.store q → P session.store →
      P (exec (m.carryOut q) session).2.store)
    (hP : P s) : P t := by
  induction hruns with
  | nil => exact hP
  | cons hfirst _ ih =>
      obtain ⟨hone, session, rfl, rfl⟩ := hfirst
      rw [List.forall_mem_cons] at hstep
      exact ih hstep.2 (hstep.1 session hone hP)

end Model

end FieldPipeline
