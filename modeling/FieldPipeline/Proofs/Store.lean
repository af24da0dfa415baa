import FieldPipeline.Store.Basic

/-!
What the actions of a store do to the records of an entity.
-/

namespace FieldPipeline.Store

def rows (entity : String) (s : Store) : List Record :=
  records entity s.tables

theorem records_setRecords (entity : String) (rs : List Record) (tables : Tables) :
    records entity (setRecords entity rs tables) = rs := by
  induction tables with
  | nil => simp [setRecords, records]
  | cons table tables ih =>
      obtain ⟨name, old⟩ := table
      by_cases h : name = entity
      · simp [setRecords, records, h]
      · simp [setRecords, records, h, ih]

theorem records_setRecords_of_ne {entity other : String} (h : other ≠ entity) (rs : List Record)
    (tables : Tables) : records other (setRecords entity rs tables) = records other tables := by
  induction tables with
  | nil => simp [setRecords, records, h.symm]
  | cons table tables ih =>
      obtain ⟨name, old⟩ := table
      by_cases hname : name = entity
      · simp [setRecords, records, hname, h.symm]
      · simp [setRecords, records, hname, ih]

theorem setRecords_records {entity : String} {tables : Tables}
    (h : tables.any (·.1 = entity) = true) :
    setRecords entity (records entity tables) tables = tables := by
  induction tables with
  | nil => cases h
  | cons table tables ih =>
      obtain ⟨name, old⟩ := table
      by_cases hname : name = entity
      · simp [setRecords, records, hname]
      · simp only [List.any_cons, decide_eq_true_eq, Bool.or_eq_true, hname, false_or] at h
        simp [setRecords, records, hname, ih h]

def names (tables : Tables) : List String :=
  tables.map Prod.fst

theorem names_setRecords (entity : String) (rs : List Record) (tables : Tables) :
    names (setRecords entity rs tables) =
      if entity ∈ names tables then names tables else names tables ++ [entity] := by
  induction tables with
  | nil => simp [setRecords, names]
  | cons table tables ih =>
      obtain ⟨name, old⟩ := table
      by_cases h : name = entity
      · simp [setRecords, names, h]
      · have hcons : ∀ rest, names ((name, old) :: rest) = name :: names rest := fun _ => rfl
        have hmem : entity ∈ name :: names tables ↔ entity ∈ names tables := by
          simp [Ne.symm h]
        simp only [setRecords, if_neg h, hcons, ih, hmem]
        split <;> rfl

theorem mem_names_setRecords (entity : String) (rs : List Record) (tables : Tables) :
    entity ∈ names (setRecords entity rs tables) := by
  rw [names_setRecords]
  split
  · assumption
  · simp

theorem any_iff_mem_names {entity : String} {tables : Tables} :
    tables.any (·.1 = entity) = true ↔ entity ∈ names tables := by
  simp [names]

/-- Whether tables are others in which the records of one entity were replaced.  All tables stay at
their places; that of the entity may be new. -/
structure Replaces (entity : String) (rs : List Record) (before after : Tables) : Prop where
  records : records entity after = rs
  others : ∀ other, other ≠ entity → Store.records other after = Store.records other before
  names : names after = names before ∨
    entity ∉ Store.names before ∧ Store.names after = Store.names before ++ [entity]

theorem replaces_setRecords (entity : String) (rs : List Record) (tables : Tables) :
    Replaces entity rs tables (setRecords entity rs tables) where
  records := records_setRecords entity rs tables
  others _ h := records_setRecords_of_ne h rs tables
  names := by
    rw [names_setRecords]
    split
    · exact .inl rfl
    · exact .inr ⟨‹_›, rfl⟩

theorem records_eq_nil {entity : String} {tables : Tables}
    (h : tables.any (·.1 = entity) = false) : records entity tables = [] := by
  induction tables with
  | nil => rfl
  | cons table tables ih =>
      obtain ⟨name, rs⟩ := table
      simp only [List.any_cons, Bool.or_eq_false_iff, decide_eq_false_iff_not] at h
      rw [records, if_neg h.1]
      exact ih h.2

theorem close_of_active {s : Store} {t : Transaction} (h : s.active = some t) (tx : Option Nat)
    (finish : Transaction → Tables) : s.close tx finish =
      if tx = some t.id then (.ok (), { s with active := none, tables := finish t })
      else (.error (.misuse (.notOpen (s.describe tx))), s) := by
  unfold close
  rw [h]
  cases tx with
  | none => rfl
  | some id => simp only [Option.some.injEq, eq_comm]

variable {s : Store} (entity : String)

theorem insert_ok (values : Record) :
    ∃ tables, s.insert entity values = (.ok values, { s with tables }) ∧
      Replaces entity (s.rows entity ++ [values]) s.tables tables :=
  ⟨_, rfl, replaces_setRecords entity _ s.tables⟩

def changedRows (values condition : Record) (rs : List Record) : List Record :=
  rs.map fun r => if r.satisfies condition then r.update values else r

theorem changedRows_of_countP_eq_zero {values condition : Record} {rs : List Record}
    (h : rs.countP (·.satisfies condition) = 0) : changedRows values condition rs = rs := by
  rw [List.countP_eq_zero] at h
  refine (List.map_congr_left fun r hr => ?_).trans (List.map_id rs)
  rw [if_neg (h r hr)]
  rfl

theorem update_ok (values condition : Record) :
    ∃ tables, s.update entity values condition =
        (.ok ((s.rows entity).countP (·.satisfies condition)), { s with tables }) ∧
      Replaces entity (changedRows values condition (s.rows entity)) s.tables tables ∧
      names tables = names s.tables ∧
      ((s.rows entity).countP (·.satisfies condition) = 0 → tables = s.tables) := by
  refine ⟨if s.tables.any (·.1 = entity) then
      setRecords entity (changedRows values condition (s.rows entity)) s.tables
    else s.tables, rfl, ?_, ?_, fun hcount => ?_⟩
  · split
    · exact replaces_setRecords entity _ s.tables
    · rename_i hany
      refine ⟨?_, fun _ _ => rfl, .inl rfl⟩
      rw [rows, records_eq_nil (Bool.eq_false_iff.mpr hany)]
      rfl
  · split
    · rw [names_setRecords, if_pos (any_iff_mem_names.mp ‹_›)]
    · rfl
  · split
    · rename_i hany
      rw [changedRows_of_countP_eq_zero hcount]
      exact setRecords_records hany
    · rfl

theorem delete_ok (condition : Record) :
    ∃ tables, s.delete entity condition =
        (.ok ((s.rows entity).countP (·.satisfies condition)), { s with tables }) ∧
      Replaces entity ((s.rows entity).filter fun r => !r.satisfies condition) s.tables tables ∧
      entity ∈ names tables := by
  refine ⟨_, ?_, replaces_setRecords entity _ s.tables, mem_names_setRecords entity _ s.tables⟩
  have hcount : (s.rows entity).length -
      ((s.rows entity).filter fun r => !r.satisfies condition).length =
        (s.rows entity).countP (·.satisfies condition) := by
    have hlength := (s.rows entity).length_eq_countP_add_countP (·.satisfies condition)
    simp only [Bool.not_eq_true, Bool.decide_eq_false] at hlength
    rw [← List.countP_eq_length_filter]
    omega
  rw [← hcount]
  rfl

theorem mem_of_findOne {condition r : Record} (h : s.findOne entity condition = some r) :
    r ∈ s.rows entity ∧ r.satisfies condition = true :=
  ⟨List.mem_of_find?_eq_some h, List.find?_some (p := (Record.satisfies · condition)) h⟩

theorem findOne_of_filter {condition former : Record}
    (h : (s.rows entity).filter (·.satisfies condition) = [former]) :
    s.findOne entity condition = some former := by
  unfold findOne
  rw [← List.head?_filter]
  exact congrArg List.head? h

theorem findOne_unique {condition r former : Record}
    (hcount : (s.rows entity).countP (·.satisfies condition) ≤ 1) (hmem : r ∈ s.rows entity)
    (hr : r.satisfies condition = true) (h : s.findOne entity condition = some former) :
    former = r := by
  obtain ⟨hformer, hsatisfies⟩ := mem_of_findOne entity h
  rw [List.countP_eq_length_filter] at hcount
  have hr' : r ∈ (s.rows entity).filter (·.satisfies condition) := List.mem_filter.mpr ⟨hmem, hr⟩
  have hformer' : former ∈ (s.rows entity).filter (·.satisfies condition) :=
    List.mem_filter.mpr ⟨hformer, hsatisfies⟩
  generalize (s.rows entity).filter (·.satisfies condition) = found at hcount hr' hformer'
  cases found with
  | nil => cases hr'
  | cons first rest =>
      have hrest : rest = [] := List.eq_nil_of_length_eq_zero (by simpa using hcount)
      subst hrest
      rw [List.mem_singleton.mp hr', List.mem_singleton.mp hformer']

end FieldPipeline.Store
