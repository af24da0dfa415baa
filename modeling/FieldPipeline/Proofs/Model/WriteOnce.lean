import FieldPipeline.Proofs.Model.Request
import FieldPipeline.Proofs.Preparation.Loading

/-!
Fields that are written once.  When a record has a value in such a field, no request changes it
but an update that overlooks the field: one that writes the field although nothing makes it look
at the record, or that takes the field for the time of a reversible state.
-/

namespace FieldPipeline

open Run Preparation

/-- Whether a field has its values from the input or from activators that read none but fields of
this kind, so that the input tells when it is written. -/
structure Entity.Direct (e : Entity) (r : Routine) (name : String) : Prop where
  generated : ∀ f ∈ e.fields, f.name = name → f.forceUpdate = true → f.auto = true →
    f.updateByStore = true
  derived : ∀ g ∈ r.groups, g.requireTarget = false → g.target = name →
    ∀ other ∈ g.requiredFields, ∀ g' ∈ r.groups, g'.requireTarget = false → g'.target ≠ other
  unstamped : ∀ u ∈ e.features, u.name = Feature.stateTracking.name →
    ∀ state, name ≠ Feature.StateTracking.stampName
      (Feature.StateTracking.tracked u.options).plain state

theorem Entity.Direct.needsFormer_eq {e : Entity} {r : Routine} {name : String}
    (h : e.Direct r name) (honce : (e.field? name).any (·.writeOnce) = true)
    (features : List Feature) {raw : Record} {existing : Option Record}
    (htouches : e.Touches r raw existing name) : needsFormer features e r raw = .ok true := by
  cases htouches with
  | stamped hu hname _ hstamp _ => exact absurd hstamp (h.unstamped _ hu hname _)
  | spreads hspreads =>
      unfold needsFormer
      cases hspreads with
      | @filled f hf hfilled _ =>
          rcases hfilled with hgiven | ⟨hforce, hauto, hstore⟩
          · have htouches : touchesWriteOnce e raw = true := by
              unfold touchesWriteOnce
              rw [List.any_eq_true]
              exact ⟨f.name, (raw.has_eq_true_iff_mem_names _).mp hgiven, honce⟩
            rw [if_pos htouches]
          · rw [h.generated f hf rfl hforce hauto] at hstore
            cases hstore
      | @derived g other hg hrequire hother hspreads _ =>
          have hchanging : other ∈ changing e raw := by
            unfold changing
            rw [List.mem_append]
            cases hspreads with
            | @filled f hf hfilled _ =>
                rcases hfilled with hgiven | ⟨hforce, hauto, _⟩
                · exact .inl ((raw.has_eq_true_iff_mem_names _).mp hgiven)
                · refine .inr (List.mem_map.mpr ⟨f, List.mem_filter.mpr ⟨hf, ?_⟩, rfl⟩)
                  rw [hforce, hauto]
                  rfl
            | @derived g' _ hg' hrequire' _ _ _ =>
                exact absurd rfl (h.derived g hg hrequire rfl _ hother g' hg' hrequire')
          have hgroup : (r.groups.any fun g =>
              runsOn (changing e raw) g && dependsOnFormer e raw g) = true := by
            rw [List.any_eq_true]
            refine ⟨g, hg, ?_⟩
            have hruns : g.requiredFields.any (changing e raw).contains = true :=
              List.any_eq_true.mpr ⟨other, hother, by simpa using hchanging⟩
            unfold runsOn dependsOnFormer
            rw [hrequire, hruns, honce]
            simp
          rw [hgroup]
          split <;> rfl

namespace Model

/-- Whether a request is an update that may write a field without a look at the value that is
there. -/
def Overlooks (m : Model) (name : String) : Request → Prop
  | .create _ _ => False
  | .update data given _ => ∃ r condition raw, m.routine = .ok r ∧
      m.entity.address data given = .ok (condition, raw) ∧
      (needsFormer Feature.builtin m.entity r raw = .ok false ∧ m.entity.Touches r raw none name ∨
        m.entity.Restamps name)

/-- Whether a request that gives a result overwrites the value that a record has in a field. -/
def Overwrites (m : Model) (name : String) (r : Record) (result : Except Failure Record) :
    Request → Prop
  | .create _ _ => False
  | .update data given _ => ∃ changes condition raw v, result = .ok changes ∧
      m.entity.address data given = .ok (condition, raw) ∧ r.satisfies condition = true ∧
      changes.get? name = some v ∧ v ≠ r.getOrNull name

variable {m : Model}

theorem Updates.overlooks (hplain : m.Plain) {s : Store} {data changes condition raw r : Record}
    {given existing : Option Record} {routine : Routine} {transaction : Option Nat}
    (h : m.Updates s data given changes routine condition raw existing)
    (hone : m.IdentifiesOne s (.update data given transaction)) (hr : r ∈ s.rows m.name)
    {name : String} (honce : (m.entity.field? name).any (·.writeOnce) = true)
    (hvalue : (r.getOrNull name).isNull = false) (hsatisfies : r.satisfies condition = true)
    (hchanged : changes.has name = true) : m.Overlooks name (.update data given transaction) := by
  have htouches := h.touches name hchanged
  refine ⟨routine, condition, raw, h.routine, h.address, ?_⟩
  rcases h.knows with ⟨rfl, hneeds⟩ | ⟨former, rfl, hfind⟩
  · rw [hplain.regular.features] at hneeds
    exact .inl ⟨hneeds, htouches⟩
  · -- the record that was loaded is the one that is changed, so its value kept the field settled
    have hsame := Store.findOne_unique m.entity.name (hone condition raw h.address) hr hsatisfies
      hfind
    exact .inr (Entity.restamps_of_touches ⟨honce, r, by rw [hsame], hvalue⟩ htouches)

theorem not_overlooks_of_direct {routine : Routine} (hroutine : m.routine = .ok routine)
    {name : String} (honce : (m.entity.field? name).any (·.writeOnce) = true)
    (hdirect : m.entity.Direct routine name) (q : Request) : ¬m.Overlooks name q := by
  cases q with
  | create => exact id
  | update data given transaction =>
      rintro ⟨r, condition, raw, hr, _, ⟨hneeds, htouches⟩ | ⟨u, hu, hname, _, state, hstamp⟩⟩
      · rw [hroutine] at hr
        cases hr
        rw [hdirect.needsFormer_eq honce _ htouches] at hneeds
        cases hneeds
      · exact hdirect.unstamped u hu hname state hstamp

theorem Updates.row_iff (hplain : m.Plain) {s : Store} {data changes condition raw r : Record}
    {given existing : Option Record} {routine : Routine} {transaction : Option Nat}
    (h : m.Updates s data given changes routine condition raw existing)
    (hone : m.IdentifiesOne s (.update data given transaction)) (hr : r ∈ s.rows m.name)
    {name : String} (honce : (m.entity.field? name).any (·.writeOnce) = true)
    (hvalue : (r.getOrNull name).isNull = false) :
    (if r.satisfies condition then r.update changes else r).getOrNull name ≠ r.getOrNull name ↔
      m.Overlooks name (.update data given transaction) ∧
        m.Overwrites name r (.ok changes) (.update data given transaction) := by
  constructor
  · intro hne
    by_cases hsatisfies : r.satisfies condition = true
    · rw [if_pos hsatisfies, Record.getOrNull_update h.distinct] at hne
      cases hget : changes.get? name with
      | none =>
          rw [hget] at hne
          exact absurd rfl hne
      | some v =>
          rw [hget] at hne
          have hchanged : changes.has name = true := by
            unfold Record.has
            rw [hget]
            rfl
          exact ⟨h.overlooks hplain hone hr honce hvalue hsatisfies hchanged,
            changes, condition, raw, v, rfl, h.address, hsatisfies, hget, hne⟩
    · rw [if_neg hsatisfies] at hne
      exact absurd rfl hne
  · rintro ⟨_, changes', condition', raw', v, hok, haddress, hsatisfies, hget, hne⟩
    cases hok
    rw [h.address] at haddress
    cases haddress
    rw [if_pos hsatisfies, Record.getOrNull_update h.distinct, hget]
    exact hne

theorem not_overwrites_of_error {name : String} {r : Record} {f : Failure} (q : Request) :
    ¬m.Overwrites name r (.error f) q := by
  cases q with
  | create => exact id
  | update =>
      rintro ⟨_, _, _, _, hok, _⟩
      cases hok

theorem exec_carryOut_row (h : m.Plain) {s : Session} {q : Request}
    (hone : m.IdentifiesOne s.store q) {i : Nat} {r : Record}
    (hrow : (s.store.rows m.name)[i]? = some r) {name : String}
    (honce : (m.entity.field? name).any (·.writeOnce) = true)
    (hvalue : (r.getOrNull name).isNull = false) :
    ∃ r', ((exec (m.carryOut q) s).2.store.rows m.name)[i]? = some r' ∧
      (r'.getOrNull name ≠ r.getOrNull name ↔
        m.Overlooks name q ∧ m.Overwrites name r (exec (m.carryOut q) s).1 q) := by
  obtain ⟨r', hrow', hbecomes⟩ := exists_becomes h.regular q hrow
  refine ⟨r', hrow', ?_⟩
  generalize (exec (m.carryOut q) s).1 = result at hbecomes
  cases hbecomes with
  | failed =>
      exact ⟨fun hne => absurd rfl hne, fun hover => absurd hover.2 (not_overwrites_of_error q)⟩
  | created => exact ⟨fun hne => absurd rfl hne, fun hover => hover.1.elim⟩
  | updated hupdates =>
      exact hupdates.row_iff h hone (List.mem_of_getElem? hrow) honce hvalue

theorem Runs.kept (h : m.Plain) {name : String} {s t : Store} {qs : List Request}
    (hruns : m.Runs s qs t) (hqs : ∀ q ∈ qs, ¬m.Overlooks name q) {i : Nat} {r : Record}
    (hrow : (s.rows m.name)[i]? = some r)
    (honce : (m.entity.field? name).any (·.writeOnce) = true)
    (hvalue : (r.getOrNull name).isNull = false) :
    ∃ r', (t.rows m.name)[i]? = some r' ∧ r'.getOrNull name = r.getOrNull name := by
  refine hruns.keeps (P := fun s => ∃ r', (s.rows m.name)[i]? = some r' ∧
      r'.getOrNull name = r.getOrNull name) (fun q hq session hone hkept => ?_) ⟨r, hrow, rfl⟩
  obtain ⟨r', hrow', hsame⟩ := hkept
  obtain ⟨r'', hrow'', hiff⟩ := exec_carryOut_row h hone hrow' honce
    (by rw [hsame]; exact hvalue)
  refine ⟨r'', hrow'', ?_⟩
  by_contra hne
  exact hqs q hq (hiff.mp (by rwa [hsame])).1

/-- In every store, a value in a field that is written once stays until a request overlooks the
field; and the request that changes the value is one that does. -/
theorem writeOnce_kept_iff (h : m.Plain) {s : Store} {i : Nat} {r : Record}
    (hrow : (s.rows m.name)[i]? = some r) {name : String}
    (honce : (m.entity.field? name).any (·.writeOnce) = true)
    (hvalue : (r.getOrNull name).isNull = false) :
    (∀ q, m.IdentifiesOne s q → ∀ session : Session, session.store = s →
      ∃ r', ((exec (m.carryOut q) session).2.store.rows m.name)[i]? = some r' ∧
        (r'.getOrNull name ≠ r.getOrNull name ↔
          m.Overlooks name q ∧ m.Overwrites name r (exec (m.carryOut q) session).1 q)) ∧
    ∀ qs t, m.Runs s qs t → (∀ q ∈ qs, ¬m.Overlooks name q) →
      ∃ r', (t.rows m.name)[i]? = some r' ∧ r'.getOrNull name = r.getOrNull name := by
  constructor
  · rintro q hone session rfl
    exact exec_carryOut_row h hone hrow honce hvalue
  · intro qs t hruns hqs
    exact hruns.kept h hqs hrow honce hvalue

def person : Model where
  entity := Preparation.person

theorem person_plain : person.Plain :=
  ⟨⟨personDeclaration, link_personDeclaration⟩, rfl, rfl⟩

def newPerson : Request :=
  .create [("id", .int 1), ("name", .text "a")] none

def onePerson : Store :=
  (exec (person.carryOut newPerson) (still Store.empty)).2.store

theorem person_reaches : person.Reaches onePerson :=
  ⟨[newPerson], .cons ⟨trivial, still Store.empty, rfl, rfl⟩ .nil⟩

theorem rows_onePerson : onePerson.rows person.name =
    [[("id", .int 1), ("name", .text "a"), ("display", .text "a"), ("handle", .text "a")]] := rfl

def newName : Request :=
  .update [("id", .int 1), ("name", .text "b")] none none

theorem person_routine : ∃ r display handle, person.routine = .ok r ∧
    r.groups = [display, handle] ∧
    (display.target, display.requireTarget, display.requiredFields) = ("display", false, ["name"]) ∧
    (handle.target, handle.requireTarget, handle.requiredFields) =
      ("handle", false, ["display"]) :=
  ⟨_, _, _, rfl, rfl, rfl, rfl⟩

/-- The name for display changes with the name, and the handle with it, but neither makes the
update look at the record before. -/
theorem newName_overlooks : person.Overlooks "handle" newName := by
  obtain ⟨r, display, handle, hr, hgroups, hdisplay, hhandle⟩ := person_routine
  simp only [Prod.mk.injEq] at hdisplay hhandle
  obtain ⟨hdisplay, hderived, hreads⟩ := hdisplay
  obtain ⟨hhandle, hderived', hreads'⟩ := hhandle
  have hnot := Entity.not_settled_none person.entity
  refine ⟨r, _, [("name", .text "b")], hr, rfl, .inl ⟨?_, .spreads ?_⟩⟩
  · cases hr
    rfl
  · have hname : person.entity.Spreads r [("name", .text "b")] none "name" :=
      .filled (f := { name := "name", displayName := "name" })
        (by simp [person, Preparation.person]) (.inl rfl) (hnot _)
    have hshown : person.entity.Spreads r [("name", .text "b")] none "display" :=
      hdisplay ▸ .derived (by simp [hgroups]) hderived (by simp [hreads]) hname (hnot _)
    exact hhandle ▸ .derived (by simp [hgroups]) hderived' (by simp [hreads']) hshown (hnot _)

theorem handle_after_newName : ((exec (person.carryOut newName) (still onePerson)).2.store.rows
    person.name).map (fun r => (r.getOrNull "handle").plain) = ["b"] := by
  decide +kernel

/-- The handle of a person changes with the name, for the change of the name overlooks it. -/
theorem person_writeOnce_kept_iff : ∃ r r', person.Plain ∧ person.Reaches onePerson ∧
    (onePerson.rows person.name)[0]? = some r ∧
    (person.entity.field? "handle").any (·.writeOnce) = true ∧
    (r.getOrNull "handle").isNull = false ∧ person.IdentifiesOne onePerson newName ∧
    ((exec (person.carryOut newName) (still onePerson)).2.store.rows person.name)[0]? = some r' ∧
    r'.getOrNull "handle" ≠ r.getOrNull "handle" ∧ person.Overlooks "handle" newName ∧
    person.Overwrites "handle" r (exec (person.carryOut newName) (still onePerson)).1 newName := by
  have hone : person.IdentifiesOne onePerson newName := fun _ _ _ => List.countP_le_length
  have hrow := congrArg (·[0]?) rows_onePerson
  have honce : (person.entity.field? "handle").any (·.writeOnce) = true := rfl
  obtain ⟨r', hrow', hiff⟩ := (writeOnce_kept_iff person_plain hrow honce rfl).1 newName hone
    (still onePerson) rfl
  have hchanged : r'.getOrNull "handle" ≠ .text "a" := by
    obtain ⟨first, hrows, hhandle⟩ := List.map_eq_singleton_iff.mp handle_after_newName
    rw [hrows] at hrow'
    cases hrow'
    intro hsame
    rw [hsame] at hhandle
    exact absurd hhandle (by decide)
  exact ⟨_, r', person_plain, person_reaches, hrow, honce, rfl, hone, hrow', hchanged,
    newName_overlooks, (hiff.mp hchanged).2⟩

end Model

end FieldPipeline
