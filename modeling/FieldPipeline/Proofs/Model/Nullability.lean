import FieldPipeline.Proofs.Model.Request
import FieldPipeline.Proofs.Preparation.Rules

/-!
Lists of fields of which one must have a value in every record.  A record that has a value keeps
one, unless an update that has not looked at the record gives a field of the list a null that does
not come from the input.
-/

namespace FieldPipeline

open Run Preparation

namespace Feature.Nullability

def HasValue (names : List Value) (r : Record) : Prop :=
  ∃ name ∈ names, isNullAt r name = false

theorem hasValue_iff {names : List Value} {r : Record} :
    HasValue names r ↔ names.all (isNullAt r) = false := by
  simp [HasValue]

theorem valueUnder?_eq_some {name v : Value} {r : Record} (h : valueUnder? name r = some v) :
    ∃ key, name = .text key ∧ r.get? key = some v := by
  unfold valueUnder? at h
  split at h
  · exact ⟨_, rfl, h⟩
  · cases h

theorem isNullAt_update {changes : Record} (h : changes.names.Nodup) (r : Record) (name : Value) :
    isNullAt (r.update changes) name = ((valueUnder? name changes).map Value.isNull).getD
      (isNullAt r name) := by
  unfold isNullAt valueUnder?
  split
  · rw [Record.get?_update h]
    cases changes.get? _ <;> rfl
  · rfl

theorem isNullIn_update {c : Context} (h : c.latest.names.Nodup) {r : Record}
    (hexisting : c.existing = some r) (name : Value) :
    isNullIn c .update name = isNullAt (r.update c.latest) name := by
  rw [isNullAt_update h]
  change isNullAfter c name = _
  unfold isNullAfter
  rw [hexisting]
  cases valueUnder? name c.latest <;> simp

theorem not_null_of_needsExisting {options : Value} {raw : Record}
    (h : needsExisting options raw = .ok false) :
    ∀ name ∈ names options, (valueUnder? name raw).any Value.isNull = false := by
  unfold needsExisting at h
  generalize names options = ns at h
  induction ns with
  | nil => simp
  | cons name ns ih =>
      rw [List.foldr_cons] at h
      split at h
      · cases h
      · split at h
        · cases h
        · rename_i hnull
          exact List.forall_mem_cons.mpr ⟨by simpa using hnull, ih h⟩

end Feature.Nullability

namespace Preparation

variable {u : FeatureUse} {raw : Record} {needs : Value → Record → Except Failure Bool}

theorem not_asked_of_featuresNeedFormer {us : List FeatureUse}
    (h : featuresNeedFormer Feature.builtin raw us = .ok false) (hu : u ∈ us)
    (hneeds : (Feature.find? Feature.builtin u.name).bind (·.needsExisting) = some needs) :
    needs u.options raw = .ok false := by
  induction us with
  | nil => cases hu
  | cons v us ih =>
      unfold featuresNeedFormer at h
      rcases List.mem_cons.mp hu with rfl | hu
      · rw [hneeds] at h
        dsimp only at h
        rw [bind_eq_ok] at h
        obtain ⟨asked, hasked, h⟩ := h
        cases asked with
        | true => cases h
        | false => exact hasked
      · split at h
        · exact ih h hu
        · rw [bind_eq_ok] at h
          obtain ⟨asked, _, h⟩ := h
          cases asked with
          | true => cases h
          | false => exact ih h hu

theorem not_asked_of_needsFormer {e : Entity} {r : Routine}
    (h : needsFormer Feature.builtin e r raw = .ok false) (hu : u ∈ e.features)
    (hneeds : (Feature.find? Feature.builtin u.name).bind (·.needsExisting) = some needs) :
    needs u.options raw = .ok false := by
  unfold needsFormer at h
  split at h
  · cases h
  · split at h
    · cases h
    · exact not_asked_of_featuresNeedFormer h hu hneeds

end Preparation

open Feature.Nullability

namespace Model

/-- Whether a request is an update that may give one of some fields a null by itself, without a
look at the record. -/
def MayBlank (m : Model) (names : List Value) : Request → Prop
  | .create _ _ => False
  | .update data given _ => ∃ r condition raw, m.routine = .ok r ∧
      m.entity.address data given = .ok (condition, raw) ∧
      needsFormer Feature.builtin m.entity r raw = .ok false ∧
      ∃ name, .text name ∈ names ∧ m.entity.Touches r raw none name ∧ m.entity.Alters r name

/-- Whether a request leaves all of some fields of a record null. -/
def Blanks (m : Model) (names : List Value) (r : Record) (result : Except Failure Record) :
    Request → Prop
  | .create _ _ => False
  | .update data given _ => ∃ changes condition raw, result = .ok changes ∧
      m.entity.address data given = .ok (condition, raw) ∧ r.satisfies condition = true ∧
      ¬HasValue names (r.update changes)

variable {m : Model} {u : FeatureUse}

theorem Prepares.hasValue (hregular : m.Regular) {routine : Routine} {values : Record}
    {existing : Option Record} (h : m.Prepares routine .create values existing)
    (hu : u ∈ m.entity.features) (hname : u.name = Feature.atLeastOneNotNull.name) :
    HasValue (names u.options) values := by
  obtain ⟨s, t, hprepare, _⟩ := h
  obtain ⟨rfl, hchecked⟩ := checked_of_prepare hregular.sound hregular.rules hprepare
  exact hasValue_iff.mpr (hchecked u hu hname)

/-- Without a look at the record, a null in a listed field does not come from the input, since
that would have asked for the record. -/
theorem Updates.alters_of_null {s : Store} {data changes condition raw : Record}
    {given existing : Option Record} {routine : Routine}
    (h : m.Updates s data given changes routine condition raw existing)
    (hneeds : needsFormer Feature.builtin m.entity routine raw = .ok false)
    (hu : u ∈ m.entity.features) (hname : u.name = Feature.atLeastOneNotNull.name) {key : String}
    (hmem : .text key ∈ names u.options) {v : Value} (hget : changes.get? key = some v)
    (hnull : v.isNull = true) : m.entity.Alters routine key := by
  by_contra hnot
  obtain ⟨w, hgiven, hwnull⟩ := h.alters key hnot v hget hnull
  have hasked : needsExisting u.options raw = .ok false :=
    not_asked_of_needsFormer hneeds hu (by rw [hname]; rfl)
  have hnotnull := not_null_of_needsExisting hasked _ hmem
  change (raw.get? key).any Value.isNull = false at hnotnull
  rw [hgiven, Option.any_some, hwnull] at hnotnull
  cases hnotnull

theorem Updates.mayBlank (hregular : m.Regular) {s : Store}
    {data changes condition raw r : Record} {given existing : Option Record} {routine : Routine}
    {transaction : Option Nat} (h : m.Updates s data given changes routine condition raw existing)
    (hone : m.IdentifiesOne s (.update data given transaction)) (hr : r ∈ s.rows m.name)
    (hsatisfies : r.satisfies condition = true) (hu : u ∈ m.entity.features)
    (hname : u.name = Feature.atLeastOneNotNull.name) (hvalue : HasValue (names u.options) r)
    (hblank : ¬HasValue (names u.options) (r.update changes)) :
    m.MayBlank (names u.options) (.update data given transaction) := by
  rcases h.knows with ⟨rfl, hneeds⟩ | ⟨former, rfl, hfind⟩
  · rw [hregular.features] at hneeds
    -- the field that had the value was given a null
    obtain ⟨name, hmem, hvalue⟩ := hvalue
    have hnull : isNullAt (r.update changes) name = true := by
      by_contra hnot
      exact hblank ⟨name, hmem, by simpa using hnot⟩
    rw [isNullAt_update h.distinct] at hnull
    cases hunder : valueUnder? name changes with
    | none =>
        rw [hunder, Option.map_none, Option.getD_none, hvalue] at hnull
        cases hnull
    | some v =>
        rw [hunder] at hnull
        obtain ⟨key, rfl, hget⟩ := valueUnder?_eq_some hunder
        exact ⟨routine, condition, raw, h.routine, h.address, hneeds, key, hmem,
          h.touches key (Record.has_of_get?_eq_some hget),
          h.alters_of_null hneeds hu hname hmem hget hnull⟩
  · -- the record was at hand when the fields were checked
    obtain ⟨t, t', hprepare, hexisting⟩ := h.prepares
    obtain ⟨rfl, hchecked⟩ := checked_of_prepare hregular.sound hregular.rules hprepare
    rw [Store.findOne_unique m.entity.name (hone condition raw h.address) hr hsatisfies
      hfind] at hexisting
    have hcounted := hchecked u hu hname
    rw [funext (isNullIn_update h.distinct hexisting)] at hcounted
    exact absurd (hasValue_iff.mpr hcounted) hblank

theorem not_blanks_of_error {ns : List Value} {r : Record} {f : Failure} (q : Request) :
    ¬m.Blanks ns r (.error f) q := by
  cases q with
  | create => exact id
  | update =>
      rintro ⟨_, _, _, hok, _⟩
      cases hok

theorem Becomes.blank_iff (h : m.Regular) {s : Store} {q : Request} {r r' : Record}
    {result : Except Failure Record} (hbecomes : m.Becomes s r q result r')
    (hone : m.IdentifiesOne s q) (hr : r ∈ s.rows m.name) (hu : u ∈ m.entity.features)
    (hname : u.name = Feature.atLeastOneNotNull.name) (hvalue : HasValue (names u.options) r) :
    ¬HasValue (names u.options) r' ↔
      m.MayBlank (names u.options) q ∧ m.Blanks (names u.options) r result q := by
  cases hbecomes with
  | failed =>
      exact ⟨fun hnot => absurd hvalue hnot, fun hblanks =>
        absurd hblanks.2 (not_blanks_of_error q)⟩
  | created => exact ⟨fun hnot => absurd hvalue hnot, fun hblanks => hblanks.1.elim⟩
  | updated hupdates =>
      constructor
      · intro hnot
        split at hnot
        · rename_i hsatisfies
          exact ⟨hupdates.mayBlank h hone hr hsatisfies hu hname hvalue hnot,
            _, _, _, rfl, hupdates.address, hsatisfies, hnot⟩
        · exact absurd hvalue hnot
      · rintro ⟨_, changes, condition, raw, hok, haddress, hsatisfies, hblank⟩
        cases hok
        rw [hupdates.address] at haddress
        cases haddress
        rwa [if_pos hsatisfies]

theorem hasValue_carryOut (h : m.Regular) {s : Session} {q : Request}
    (hone : m.IdentifiesOne s.store q) (hu : u ∈ m.entity.features)
    (hname : u.name = Feature.atLeastOneNotNull.name) (hq : ¬m.MayBlank (names u.options) q)
    (hvalues : ∀ r ∈ s.store.rows m.name, HasValue (names u.options) r) :
    ∀ r ∈ (exec (m.carryOut q) s).2.store.rows m.name, HasValue (names u.options) r := by
  intro r' hr'
  rcases becomes_or_prepares h hr' with ⟨r, hr, hbecomes⟩ | ⟨_, _, hprepares⟩
  · by_contra hblank
    exact hq ((hbecomes.blank_iff h hone hr hu hname (hvalues r hr)).mp hblank).1
  · exact hprepares.hasValue h hu hname

theorem Runs.hasValue (h : m.Regular) (hu : u ∈ m.entity.features)
    (hname : u.name = Feature.atLeastOneNotNull.name) {s t : Store} {qs : List Request}
    (hruns : m.Runs s qs t) (hqs : ∀ q ∈ qs, ¬m.MayBlank (names u.options) q)
    (hvalues : ∀ r ∈ s.rows m.name, HasValue (names u.options) r) :
    ∀ r ∈ t.rows m.name, HasValue (names u.options) r := by
  refine hruns.keeps (P := fun s => ∀ r ∈ s.rows m.name, HasValue (names u.options) r)
    (fun q hq session hone => ?_) hvalues
  exact hasValue_carryOut h hone hu hname (hqs q hq)

theorem hasValue_of_unaltered (h : m.Plain) (hu : u ∈ m.entity.features)
    (hname : u.name = Feature.atLeastOneNotNull.name)
    (hunaltered : ∀ r, m.routine = .ok r → ∀ name, .text name ∈ names u.options →
      ¬m.entity.Alters r name) {s : Store} (hs : m.Reaches s) :
    ∀ r ∈ s.rows m.name, HasValue (names u.options) r := by
  obtain ⟨qs, hruns⟩ := hs
  refine hruns.hasValue h.regular hu hname (fun q _ => ?_) fun r hr => by cases hr
  cases q with
  | create => exact id
  | update =>
      rintro ⟨r, _, _, hr, _, _, name, hmem, _, halters⟩
      exact hunaltered r hr name hmem halters

/-- In every store, a record with a value in a list of fields of which one must have a value loses
it exactly by an update that has not looked at it, gives one of the fields a null by itself and
leaves the others null.  Created records have a value, and so do all records
along requests none of which may give such a null. -/
theorem hasValue_kept_iff (h : m.Plain) {s : Store}
    (hu : u ∈ m.entity.features) (hname : u.name = Feature.atLeastOneNotNull.name) :
    (∀ q, m.IdentifiesOne s q → ∀ session : Session, session.store = s →
      ∀ (i : Nat) (r : Record), (s.rows m.name)[i]? = some r → HasValue (names u.options) r →
        ∃ r', ((exec (m.carryOut q) session).2.store.rows m.name)[i]? = some r' ∧
          (¬HasValue (names u.options) r' ↔ m.MayBlank (names u.options) q ∧
            m.Blanks (names u.options) r (exec (m.carryOut q) session).1 q)) ∧
    (∀ session : Session, session.store = s → ∀ data transaction values,
      (exec (m.carryOut (.create data transaction)) session).1 = .ok values →
        HasValue (names u.options) values) ∧
    ∀ qs t, m.Runs s qs t → (∀ q ∈ qs, ¬m.MayBlank (names u.options) q) →
      (∀ r ∈ s.rows m.name, HasValue (names u.options) r) →
      ∀ r ∈ t.rows m.name, HasValue (names u.options) r := by
  refine ⟨?_, ?_, ?_⟩
  · rintro q hone session rfl i r hrow hvalue
    obtain ⟨r', hrow', hbecomes⟩ := exists_becomes h.regular q hrow
    exact ⟨r', hrow', hbecomes.blank_iff h.regular hone (List.mem_of_getElem? hrow) hu hname
      hvalue⟩
  · rintro session rfl data transaction values hresult
    have hcarries := exec_carryOut h.regular (.create data transaction) session
    rw [hresult] at hcarries
    obtain ⟨⟨routine, _, hprepares⟩, _⟩ := hcarries
    exact hprepares.hasValue h.regular hu hname
  · intro qs t hruns hqs hvalues
    exact hruns.hasValue h.regular hu hname hqs hvalues

def contact : Model where
  entity := {
    name := "contact"
    fields := [
      { name := "id", type := "integer", displayName := "id" },
      { name := "nick", optional := true, displayName := "nick" },
      { name := "email", optional := true, displayName := "email", modifiers := [
        { kind := "Activator", name := "copy", args := [.fieldRef "nick"] }] },
      { name := "phone", optional := true, displayName := "phone" }]
    features := [
      { name := "at_least_one_not_null", options := .list [.text "email", .text "phone"] }]
    key := ["id"]
    uniqueKeys := [["id"]] }

def contactDeclaration : Declaration where
  name := "contact"
  fields := [
    { name := "id", type := "integer" },
    { name := "nick", optional := true },
    { name := "email", optional := true, modifiers := [
      { kind := "Activator", name := "copy", args := [.fieldRef "nick"] }] },
    { name := "phone", optional := true }]
  features := [
    { name := "at_least_one_not_null", options := .list [.text "email", .text "phone"] }]
  key := some (.single "id")

theorem contact_plain : contact.Plain :=
  ⟨⟨contactDeclaration, rfl⟩, rfl, rfl⟩

def newContact : Request :=
  .create [("id", .int 1), ("nick", .text "a")] none

def oneContact : Store :=
  (exec (contact.carryOut newContact) (still Store.empty)).2.store

theorem contact_reaches : contact.Reaches oneContact :=
  ⟨[newContact], .cons ⟨trivial, still Store.empty, rfl, rfl⟩ .nil⟩

theorem rows_oneContact : oneContact.rows contact.name =
    [[("id", .int 1), ("nick", .text "a"), ("email", .text "a")]] := rfl

def noNick : Request :=
  .update [("id", .int 1), ("nick", .null)] none none

theorem rows_noNick : ((exec (contact.carryOut noNick) (still oneContact)).2.store.rows
    contact.name).map (fun r => ([Value.text "email", .text "phone"]).all (isNullAt r)) =
      [true] := by
  decide +kernel

theorem contact_hasValue_kept_iff : ∃ u r r', contact.Plain ∧ contact.Reaches oneContact ∧
    u ∈ contact.entity.features ∧ u.name = Feature.atLeastOneNotNull.name ∧
    contact.IdentifiesOne oneContact noNick ∧ (oneContact.rows contact.name)[0]? = some r ∧
    HasValue (names u.options) r ∧
    ((exec (contact.carryOut noNick) (still oneContact)).2.store.rows contact.name)[0]? =
      some r' ∧ ¬HasValue (names u.options) r' ∧ contact.MayBlank (names u.options) noNick ∧
    contact.Blanks (names u.options) r (exec (contact.carryOut noNick) (still oneContact)).1
      noNick := by
  let u : FeatureUse :=
    { name := "at_least_one_not_null", options := .list [.text "email", .text "phone"] }
  have hu : u ∈ contact.entity.features := List.mem_singleton.mpr rfl
  have hone : contact.IdentifiesOne oneContact noNick := fun _ _ _ => List.countP_le_length
  have hvalue : HasValue (names u.options)
      [("id", .int 1), ("nick", .text "a"), ("email", .text "a")] :=
    ⟨.text "email", List.mem_cons_self, rfl⟩
  have hrow := congrArg (·[0]?) rows_oneContact
  obtain ⟨r', hrow', hiff⟩ := (hasValue_kept_iff contact_plain hu rfl).1 noNick hone
    (still oneContact) rfl 0 _ hrow hvalue
  have hblank : ¬HasValue (names u.options) r' := by
    obtain ⟨first, hrows, hnull⟩ := List.map_eq_singleton_iff.mp rows_noNick
    rw [hrows] at hrow'
    cases hrow'
    rw [hasValue_iff]
    change ¬([Value.text "email", .text "phone"]).all (isNullAt r') = false
    simp [hnull]
  exact ⟨u, _, r', contact_plain, contact_reaches, hu, rfl, hone, hrow, hvalue, hrow', hblank,
    hiff.mp hblank⟩

end Model

end FieldPipeline
