import FieldPipeline.Proofs.Linking.Build
import FieldPipeline.Proofs.Preparation.Failing
import FieldPipeline.Proofs.Preparation.Keeping

/-!
How an update that is given no condition finds its record.  It goes by the first unique key for all
of whose names the input has values, and what it makes of this key is a condition unless the key
has a name twice; but the condition of a key without names is one that every record satisfies.
-/

namespace FieldPipeline

open Run

def Record.Fills (r : Record) (key : List String) : Prop :=
  ∀ name ∈ key, (r.getOrNull name).isNull = false

namespace Record

theorem get?_erase_self (r : Record) (name : String) : (r.erase name).get? name = none := by
  induction r with
  | nil => rfl
  | cons entry r ih =>
      obtain ⟨first, v⟩ := entry
      unfold erase at ih ⊢
      by_cases hfirst : first = name
      · rw [List.filter_cons_of_neg (by simpa using hfirst), ih]
      · rw [List.filter_cons_of_pos (by simpa using hfirst), get?_cons, if_neg hfirst, ih]

def under (key : List String) (r : Record) : Record :=
  key.map fun name => (name, r.getOrNull name)

def without (key : List String) (r : Record) : Record :=
  r.filter fun entry => entry.1 ∉ key

theorem erase_without (name : String) (key : List String) (r : Record) :
    (r.erase name).without key = r.without (name :: key) := by
  unfold erase without
  rw [List.filter_filter]
  simp [not_or, Bool.and_comm]

theorem under_erase {name : String} {key : List String} (h : name ∉ key) (r : Record) :
    (r.erase name).under key = r.under key := by
  refine List.map_congr_left fun other hother => ?_
  have hne : name ≠ other := fun heq => h (heq ▸ hother)
  unfold getOrNull
  rw [get?_erase_of_ne r hne]

theorem Fills.has {r : Record} {key : List String} (h : r.Fills key) :
    ∀ name ∈ key, r.has name = true :=
  fun name hname => has_of_isNull_getOrNull (h name hname)

/-- A key that is taken has no name twice, since after the first time it is not there anymore. -/
theorem takeKey_ok {key : List String} {r taken left : Record}
    (h : r.takeKey key = .ok (taken, left)) :
    taken = r.under key ∧ left = r.without key ∧ key.Nodup ∧ ∀ name ∈ key, r.has name = true := by
  induction key generalizing r taken with
  | nil =>
      cases h
      exact ⟨rfl, by simp [without], .nil, nofun⟩
  | cons name key ih =>
      unfold takeKey at h
      split at h
      · cases h
      · rename_i v hv
        obtain ⟨⟨taken, left⟩, hrest, h⟩ := bind_eq_ok.mp h
        cases h
        obtain ⟨rfl, rfl, hnodup, hthere⟩ := ih hrest
        have hname : name ∉ key := by
          intro hmem
          have hthere := hthere name hmem
          rw [has, get?_erase_self] at hthere
          cases hthere
        refine ⟨?_, erase_without name key r, List.nodup_cons.mpr ⟨hname, hnodup⟩,
          List.forall_mem_cons.mpr ⟨has_of_get?_eq_some hv, fun other hother => ?_⟩⟩
        · rw [under_erase hname]
          simp [under, getOrNull, hv]
        · have hne : name ≠ other := fun heq => hname (heq ▸ hother)
          have hthere := hthere other hother
          rwa [has, get?_erase_of_ne r hne] at hthere

theorem takeKey_of_nodup {key : List String} (hkey : key.Nodup) {r : Record} (hr : r.Fills key) :
    r.takeKey key = .ok (r.under key, r.without key) := by
  obtain ⟨⟨taken, left⟩, htaken⟩ := exists_takeKey hkey hr.has
  obtain ⟨rfl, rfl, -⟩ := takeKey_ok htaken
  exact htaken

end Record

/-- Whether a key is the first one of an entity for all of whose names a record has values. -/
def Entity.Chooses (e : Entity) (raw : Record) (key : List String) : Prop :=
  ∃ before after, e.uniqueKeys = before ++ key :: after ∧ raw.Fills key ∧
    ∀ other ∈ before, ¬raw.Fills other

namespace Entity

variable {e : Entity} {raw : Record} {key : List String}

theorem uniqueKeyIn?_eq_some : e.uniqueKeyIn? raw = some key ↔ e.Chooses raw key := by
  unfold uniqueKeyIn? Chooses Record.Fills
  rw [List.find?_eq_some_iff_append]
  constructor
  · rintro ⟨hkey, before, after, heq, hbefore⟩
    exact ⟨before, after, heq, by simpa using hkey, fun other hother => by
      simpa using hbefore other hother⟩
  · rintro ⟨before, after, heq, hkey, hbefore⟩
    exact ⟨by simpa using hkey, before, after, heq, fun other hother => by
      simpa using hbefore other hother⟩

theorem uniqueKeyIn?_eq_none :
    e.uniqueKeyIn? raw = none ↔ ∀ key ∈ e.uniqueKeys, ¬raw.Fills key := by
  simp [uniqueKeyIn?, Record.Fills]

theorem Chooses.mem (h : e.Chooses raw key) : key ∈ e.uniqueKeys := by
  obtain ⟨before, after, heq, -⟩ := h
  simp [heq]

theorem Chooses.fills (h : e.Chooses raw key) : raw.Fills key := by
  obtain ⟨before, after, -, hfills, -⟩ := h
  exact hfills

theorem address_none (e : Entity) (raw : Record) :
    (e.address raw none = .error (.misuse (.noKey e.name)) ∧
      ∀ key ∈ e.uniqueKeys, ¬raw.Fills key) ∨
    ∃ key, e.Chooses raw key ∧
      (key.Nodup ∧ e.address raw none = .ok (raw.under key, raw.without key) ∨
        ¬key.Nodup ∧ e.address raw none = .error (.fault .missingKey)) := by
  unfold address
  cases hkey : e.uniqueKeyIn? raw with
  | none => exact .inl ⟨rfl, uniqueKeyIn?_eq_none.mp hkey⟩
  | some key =>
      have hchooses := uniqueKeyIn?_eq_some.mp hkey
      refine .inr ⟨key, hchooses, ?_⟩
      by_cases hnodup : key.Nodup
      · refine .inl ⟨hnodup, ?_⟩
        dsimp only
        rw [Record.takeKey_of_nodup hnodup hchooses.fills]
        rfl
      · refine .inr ⟨hnodup, ?_⟩
        cases htaken : raw.takeKey key with
        | ok values => exact absurd (Record.takeKey_ok htaken).2.2.1 hnodup
        | error fault =>
            dsimp only
            rw [htaken, Record.takeKey_error htaken]
            rfl

end Entity

def Session.ofAddress (s : Session) : Record × Option Record :=
  (s.context.raw, s.context.condition)

theorem Session.apart_ofAddress : Session.Apart Session.ofAddress :=
  ⟨fun _ _ _ _ => rfl, fun _ _ _ _ => rfl⟩

/-- Whether an update that was given no condition has identified its record, or was refused because
no unique key has values: the condition asks for the values of the first key that has, and they are
not in the input anymore. -/
def Entity.Addresses (e : Entity) (raw : Record) (outcome : Except Failure Record × Session) :
    Prop :=
  ((∀ key ∈ e.uniqueKeys, ¬raw.Fills key) ∧ outcome.1 = .error (.misuse (.noKey e.name)) ∧
    outcome.2.ofAddress = (raw, none)) ∨
  ∃ key, e.Chooses raw key ∧ key ≠ [] ∧ key.Nodup ∧
    outcome.2.ofAddress = (raw.without key, some (raw.under key))

/-- Whether the key of a declaration has no name twice, and its unique indexes have none twice
and at least one. -/
structure Declaration.Distinguishes (d : Declaration) : Prop where
  key : ∀ k, d.key = some k → k.names.Nodup
  indexes : ∀ i ∈ d.indexes, i.unique = true → i.fields ≠ [] ∧ i.fields.Nodup

theorem Declaration.Distinguishes.uniqueKeys {catalogue : Catalogue} {d : Declaration} {e : Entity}
    (h : d.Distinguishes) (hfeatures : catalogue.features = Feature.builtin)
    (hlink : d.link catalogue = .ok e) : ∀ key ∈ e.uniqueKeys, key ≠ [] ∧ key.Nodup := by
  obtain ⟨hkeys, -, hkey⟩ := d.keys_of_link hfeatures hlink
  intro key hmem
  rw [hkeys, Linking.mem_uniqueKeys] at hmem
  rcases hmem with ⟨rfl, hne⟩ | ⟨i, hi, hunique, rfl⟩
  · refine ⟨hne, ?_⟩
    rcases hkey with ⟨k, hdeclared, hnames⟩ | ⟨-, hshort⟩
    · exact hnames ▸ h.key k hdeclared
    · match hlist : e.key with
      | [] => exact .nil
      | [name] => exact List.nodup_singleton name
      | _ :: _ :: _ =>
          rw [hlist] at hshort
          simp at hshort
  · exact h.indexes i hi hunique

namespace Preparation

variable {equipment : Equipment} {e : Entity} {r : Routine}

theorem ofAddress_identify (s : Session) :
    (exec (identify equipment e r) s).2.ofAddress = (exec (settleCondition e) s).2.ofAddress := by
  rw [exec_identify]
  rcases exec (settleCondition e) s with ⟨f | condition, t⟩
  · rfl
  · dsimp only
    split
    · split
      · rfl
      · rfl
      · rw [exec_loadFormer]
        split
        · split <;> rfl
        · rfl
    · rfl

section

variable (hgenerators : ∀ g ∈ equipment.generators, g.Keeps Session.ofAddress)
  (hrules : ∀ r ∈ equipment.rules, ∀ a ∈ r.2, a.Keeps Session.ofAddress)
  (hmodifiers : ∀ g ∈ r.groups, ∀ o ∈ g.operations, ∀ c ∈ o.calls,
    c.modifier.Keeps Session.ofAddress)
include hgenerators hrules hmodifiers

theorem ofAddress_prepare (s : Session) :
    (exec (prepare equipment e r .update) s).2.ofAddress =
      (exec (settleCondition e) ((s.begun .update).atPoint .resolveExisting)).2.ofAddress := by
  have hlater : Run.Keeps Session.ofAddress (later equipment e r .update) :=
    keeps_later Session.apart_ofAddress hgenerators hrules hmodifiers
  have hsteps : (exec (steps equipment e r .update) (s.begun .update)).2.ofAddress =
      (exec (identify equipment e r) ((s.begun .update).atPoint .resolveExisting)).2.ofAddress := by
    rw [steps_update, exec_bind_of_ok (exec_reach _ _), exec_bind]
    rcases exec (identify equipment e r) ((s.begun .update).atPoint .resolveExisting) with
      ⟨f | _, t⟩
    · rfl
    · exact hlater t
  rw [← @ofAddress_identify equipment e r, ← hsteps, exec_prepare]
  rcases exec (steps equipment e r .update) (s.begun .update) with ⟨f | _, t⟩
  · exact keeps_failed Session.apart_ofAddress f t
  · rfl

end

theorem exec_prepare_of_address_error {s : Session} {f : Failure}
    (h : e.address s.context.raw s.context.condition = .error f) :
    (exec (prepare equipment e r .update) s).1 = .error f := by
  have hsettle : exec (settleCondition e) ((s.begun .update).atPoint .resolveExisting) =
      (.error f, (s.begun .update).atPoint .resolveExisting) := exec_settleCondition_error h
  have hidentify : exec (identify equipment e r) ((s.begun .update).atPoint .resolveExisting) =
      (.error f, (s.begun .update).atPoint .resolveExisting) := by
    rw [exec_identify, hsettle]
  rw [exec_prepare, steps_update, exec_bind_of_ok (exec_reach _ _), exec_bind, hidentify]

section

variable (hgenerators : ∀ g ∈ equipment.generators, g.Keeps Session.ofAddress)
  (hrules : ∀ r ∈ equipment.rules, ∀ a ∈ r.2, a.Keeps Session.ofAddress)
  (hmodifiers : ∀ g ∈ r.groups, ∀ o ∈ g.operations, ∀ c ∈ o.calls,
    c.modifier.Keeps Session.ofAddress)
  {s : Session} (hnone : s.context.condition = none)
include hgenerators hrules hmodifiers hnone

theorem address_of_prepare :
    ((∀ key ∈ e.uniqueKeys, ¬s.context.raw.Fills key) ∧
      (exec (prepare equipment e r .update) s).1 = .error (.misuse (.noKey e.name)) ∧
      (exec (prepare equipment e r .update) s).2.ofAddress = (s.context.raw, none)) ∨
    ∃ key, e.Chooses s.context.raw key ∧
      (key.Nodup ∧ (exec (prepare equipment e r .update) s).2.ofAddress =
          (s.context.raw.without key, some (s.context.raw.under key)) ∨
        ¬key.Nodup ∧ (exec (prepare equipment e r .update) s).1 = .error (.fault .missingKey) ∧
          (exec (prepare equipment e r .update) s).2.ofAddress = (s.context.raw, none)) := by
  have hfails : ∀ f, e.address s.context.raw none = .error f →
      (exec (prepare equipment e r .update) s).1 = .error f ∧
        (exec (prepare equipment e r .update) s).2.ofAddress = (s.context.raw, none) := by
    intro f haddress
    refine ⟨exec_prepare_of_address_error (hnone ▸ haddress), ?_⟩
    rw [ofAddress_prepare hgenerators hrules hmodifiers, exec_settleCondition,
      show e.address _ _ = .error f from hnone ▸ haddress]
    exact congrArg (Prod.mk s.context.raw) hnone
  rcases e.address_none s.context.raw with ⟨haddress, hmissed⟩ | ⟨key, hchooses, hkey⟩
  · exact .inl ⟨hmissed, hfails _ haddress⟩
  · refine .inr ⟨key, hchooses, ?_⟩
    rcases hkey with ⟨hnodup, haddress⟩ | ⟨htwice, haddress⟩
    · refine .inl ⟨hnodup, ?_⟩
      rw [ofAddress_prepare hgenerators hrules hmodifiers, exec_settleCondition,
        show e.address _ _ = .ok _ from hnone ▸ haddress]
      rfl
    · exact .inr ⟨htwice, hfails _ haddress⟩

/-- An update identifies its record, or is refused, unless the first key for which its input has
values has no names, or has a name twice.  No such key comes from a declaration whose own key and
unique indexes are neither. -/
theorem addresses_prepare_iff {catalogue : Catalogue} {d : Declaration}
    (hfeatures : catalogue.features = Feature.builtin) (hlink : d.link catalogue = .ok e) :
    (e.Addresses s.context.raw (exec (prepare equipment e r .update) s) ↔
      ∀ key, e.Chooses s.context.raw key → key ≠ [] ∧ key.Nodup) ∧
    (d.Distinguishes → e.Addresses s.context.raw (exec (prepare equipment e r .update) s)) := by
  have haddress := address_of_prepare (e := e) hgenerators hrules hmodifiers hnone
  have hiff : e.Addresses s.context.raw (exec (prepare equipment e r .update) s) ↔
      ∀ key, e.Chooses s.context.raw key → key ≠ [] ∧ key.Nodup := by
    constructor
    · rintro (⟨hmissed, -⟩ | ⟨key, hchooses, hne, hnodup, -⟩) other hother
      · exact absurd hother.fills (hmissed other hother.mem)
      · rw [← Entity.uniqueKeyIn?_eq_some] at hchooses hother
        cases hchooses.symm.trans hother
        exact ⟨hne, hnodup⟩
    · intro hkeys
      rcases haddress with hmissed | ⟨key, hchooses, ⟨hnodup, hdone⟩ | ⟨htwice, -⟩⟩
      · exact .inl hmissed
      · exact .inr ⟨key, hchooses, (hkeys key hchooses).1, hnodup, hdone⟩
      · exact absurd (hkeys key hchooses).2 htwice
  exact ⟨hiff, fun h => hiff.mpr fun key hkey => h.uniqueKeys hfeatures hlink key hkey.mem⟩

end

def patronDeclaration : Declaration where
  name := "patron"
  fields := [{ name := "id", type := "integer" }, { name := "name" }]
  key := some (.single "id")
  indexes := [{ fields := [], unique := true }]

def patron : Entity where
  name := "patron"
  fields := [
    { name := "id", type := "integer", displayName := "id" },
    { name := "name", displayName := "name" }]
  key := ["id"]
  uniqueKeys := [["id"], []]

theorem link_patronDeclaration :
    patronDeclaration.link ⟨Feature.builtin, Generator.builtin⟩ = .ok patron := rfl

def patronRoutine : Routine where
  entity := "patron"

def revising (raw : Record) : Session where
  settings := {}
  sources := .still
  context := { raw }

/-- With a number the update is about one person, and without one it is about all. -/
theorem patron_addresses :
    patron.compile ModifierTable.builtin true = .ok patronRoutine ∧
    patron.Addresses [("id", .int 1), ("name", .text "b")]
      (exec (prepare {} patron patronRoutine .update)
        (revising [("id", .int 1), ("name", .text "b")])) ∧
    ¬patron.Addresses [("name", .text "b")]
      (exec (prepare {} patron patronRoutine .update) (revising [("name", .text "b")])) ∧
    (exec (prepare {} patron patronRoutine .update) (revising [("name", .text "b")])).2.ofAddress =
      ([("name", .text "b")], some []) := by
  have hgenerators : ∀ g ∈ ({} : Equipment).generators, g.Keeps Session.ofAddress :=
    fun g hg f locale =>
      (Generator.draws_of_mem_builtin hg f locale).keeps Session.apart_ofAddress
  have hrules : ∀ r ∈ ({} : Equipment).rules, ∀ a ∈ r.2, a.Keeps Session.ofAddress :=
    Feature.keeps_rulesOf_builtin Session.apart_ofAddress
  have hiff := fun raw => addresses_prepare_iff (r := patronRoutine) (s := revising raw)
    hgenerators hrules nofun rfl rfl link_patronDeclaration
  have hnumber : patron.Chooses [("id", .int 1), ("name", .text "b")] ["id"] :=
    Entity.uniqueKeyIn?_eq_some.mp rfl
  have hnothing : patron.Chooses [("name", .text "b")] [] :=
    Entity.uniqueKeyIn?_eq_some.mp rfl
  refine ⟨rfl, (hiff _).1.mpr fun key hkey => ?_, fun h => ?_, rfl⟩
  · rw [← Entity.uniqueKeyIn?_eq_some] at hkey hnumber
    cases hnumber.symm.trans hkey
    exact ⟨by simp, by simp⟩
  · exact ((hiff _).1.mp h [] hnothing).1 rfl

end Preparation

end FieldPipeline
