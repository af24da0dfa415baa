import FieldPipeline.Proofs.Model.Request
import FieldPipeline.Proofs.Preparation.Confining
import FieldPipeline.Proofs.Preparation.Lacking

/-!
Whether a record is found again by the key that it was created with.  A creation writes what the
values of the key are converted to, and an update looks for these values as they are given.  So the
record is found when each value of the key is the same as what it was converted to, and only then.
-/

namespace FieldPipeline

open Run

theorem Record.satisfies_under {r other : Record} {key : List String} :
    r.satisfies (other.under key) = true ↔
      ∀ name ∈ key, (r.getOrNull name).same (other.getOrNull name) = true := by
  simp [satisfies, under]

theorem Entity.Chooses.address_eq {e : Entity} {raw : Record} {key : List String}
    (h : e.Chooses raw key) :
    e.address raw none = .ok (raw.under key, raw.without key) ∨
      e.address raw none = .error (.fault .missingKey) := by
  rcases e.address_none raw with ⟨-, hmissed⟩ | ⟨other, hother, haddress⟩
  · exact absurd h.fills (hmissed key h.mem)
  · rw [← uniqueKeyIn?_eq_some] at h hother
    cases hother.symm.trans h
    exact haddress.imp And.right And.right

namespace Preparation

variable {e : Entity} {r : Routine} {s t : Session} {d : Declaration} {merging : Bool}
  {values : Record} {f : Field}

section

variable (hlink : d.link ⟨Feature.builtin, Generator.builtin⟩ = .ok e)
  (hr : e.compile ModifierTable.builtin merging = .ok r)
  (hprepare : exec (prepare {} e r .create) s = (.ok values, t)) (hf : f ∈ e.fields)
  (hmodifiers : f.modifiers = []) (htimes : ¬e.TimesState f.name)
include hlink hr hprepare hf hmodifiers htimes

theorem exists_turn_of_prepare : ∃ v w, v.settings = s.settings ∧
    v.context.raw = s.context.raw ∧ exec (fillField {} e .create f) v = (.ok (), w) ∧
    values.get? f.name = w.context.latest.get? f.name := by
  have hsound := d.sound_of_link rfl hlink
  have hdraws := Entity.draws_of_compile (fun _ hm => ModifierTable.draws_builtin hm) hr
  obtain ⟨_, u, rfl, hlater, rfl, rfl⟩ := exec_prepare_ok hprepare
  obtain ⟨filled, applied, stamped, hfill, happly, hstamp, hcheck⟩ := exec_later_ok hlater
  obtain ⟨rfl, -⟩ := e.exec_lastChecks_ok hsound .create (fun _ => id) hcheck
  obtain ⟨v, w, hbefore, hturn, hafter⟩ := exists_own_turn_of_fill
    (fun g hg => Generator.draws_of_mem_builtin hg) hsound.distinct hf hfill
  refine ⟨v, w, hbefore.settings, hbefore.raw, hturn, ?_⟩
  have huntouched : ¬∃ g ∈ r.groups, f.name = g.target := by
    rintro ⟨g, hg, hname⟩
    obtain ⟨f', hf', hname', hmodified⟩ := Entity.exists_modified_of_compile hr hg
    cases List.inj_on_of_nodup_map hsound.distinct hf' hf (hname'.trans hname.symm)
    exact hmodified hmodifiers
  have hstamps := e.stamps_of_runRules hsound (fun _ => d.tracks_of_link rfl hlink) hstamp
  calc u.context.latest.get? f.name
      = applied.context.latest.get? f.name := Entity.get?_of_stamps hstamps htimes
    _ = filled.context.latest.get? f.name :=
        ((Routine.writesOnly_apply hdraws).writes happly).latest f.name huntouched
    _ = w.context.latest.get? f.name := hafter.latest f.name (not_not_intro rfl)

theorem coerced_of_prepare (hgiven : (s.context.raw.getOrNull f.name).isNull = false) :
    ∃ w, f.coerce s.settings (s.context.raw.getOrNull f.name) = .ok w ∧
      values.get? f.name = some w := by
  obtain ⟨v, w, hsettings, hraw, hturn, hkept⟩ :=
    exists_turn_of_prepare hlink hr hprepare hf hmodifiers htimes
  obtain ⟨given, hget⟩ : ∃ given, s.context.raw.get? f.name = some given :=
    Option.isSome_iff_exists.mp (Record.has_of_isNull_getOrNull hgiven)
  have hvalue : s.context.raw.getOrNull f.name = given := by simp [Record.getOrNull, hget]
  rw [hvalue] at hgiven ⊢
  unfold fillField at hturn
  rw [exec_bind_of_ok (exec_context v), hraw, hget] at hturn
  obtain ⟨-, value, rfl, ⟨hnull, -⟩ | ⟨-, hcoerce⟩⟩ := exec_fillGiven_ok hturn
  · rw [hgiven] at hnull
    cases hnull
  · rw [hsettings] at hcoerce
    exact ⟨value, hcoerce, hkept.trans (Record.get?_put_self _ _ _)⟩

end

end Preparation

namespace Model

variable {m : Model} {r : Routine} {s t : Session} {f : Failure}

theorem exists_work_of_inTransaction {α : Type} {work : Run α}
    (hwork : work.Keeps Session.ofTransaction) {result : Except Failure α}
    (h : exec (inTransaction work) s = (result, t)) :
    result = .error (.misuse .transactionOpen) ∨
      ∃ s' t', exec work s' = (result, t') ∧ s'.settings = s.settings ∧
        s'.store.tables = s.store.tables ∧
        s'.context = { s.context with transaction := s'.context.transaction } := by
  have hslot : work.Keeps Session.slot := fun s => congrArg Prod.fst (hwork s)
  rcases exec_inTransaction_cases hslot s with
    ⟨-, hexec⟩ | ⟨-, hexec⟩ | ⟨-, -, hexec⟩ <;> rw [hexec] at h
  · exact .inr ⟨s, t, h, rfl, rfl, rfl⟩
  · cases h
    exact .inl rfl
  · have htransaction := congrArg Prod.snd (hwork s.opened)
    have hresult := congrArg Prod.fst h
    rw [Session.fst_concluded htransaction] at hresult
    exact .inr ⟨s.opened, (exec work s.opened).2, Prod.ext hresult rfl, rfl, rfl, rfl⟩

theorem exists_work_of_carryOut (h : m.Regular) {q : Request} {result : Except Failure Record}
    (hexec : exec (m.carryOut q) s = (result, t)) :
    result = .error (.misuse .transactionOpen) ∨
      ∃ s' t', exec (m.work q) s' = (result, t') ∧ s'.settings = s.settings ∧
        s'.store.tables = s.store.tables ∧
        s'.context = { m.asked q with transaction := s'.context.transaction } := by
  rw [exec_carryOut_eq] at hexec
  exact exists_work_of_inTransaction ((h.keeps Session.apart_ofStore).transaction_work q) hexec

section

variable (h : m.Plain) (hr : m.routine = .ok r) {condition raw row : Record}
include h hr

theorem not_misses_prepared (hnone : s.context.existing = none)
    (haddress : m.entity.address s.context.raw s.context.condition = .ok (condition, raw))
    (hrow : s.store.findOne m.name condition = some row)
    (hexec : exec (m.prepared .update .beforeUpdate) s = (.error f, t)) : ¬f.Misses := by
  obtain ⟨d, hlink⟩ := h.linked
  have hsound := d.sound_of_link rfl hlink
  obtain ⟨needed, hneeded⟩ := Preparation.needsFormer_ok hsound r raw
  have hcompile : m.entity.compile ModifierTable.builtin m.mergesChains = .ok r := h.table ▸ hr
  rw [exec_prepared h.regular _ _ (fun _ _ => rfl) hr, h.equipment, Preparation.exec_prepare,
    Preparation.exec_steps_unloaded rfl hnone haddress hrow hneeded] at hexec
  rcases hlater : exec (Preparation.later {} m.entity r .update)
    (if needed then (s.identified condition raw).loaded row else s.identified condition raw)
    with ⟨g | _, u⟩ <;> rw [hlater] at hexec <;> cases hexec
  exact Preparation.not_misses_later hsound (d.known_of_link rfl hlink) hcompile _ _ _ hlater

theorem not_misses_updating {data : Record} {given : Option Record} {transaction : Option Nat}
    (hasked : s.context = { m.asked (.update data given transaction) with
      transaction := s.context.transaction })
    (haddress : m.entity.address data given = .ok (condition, raw))
    (hrow : row ∈ s.store.rows m.name) (hsatisfies : row.satisfies condition = true)
    (hexec : exec m.updating s = (.error f, t)) : ¬f.Misses := by
  unfold updating at hexec
  rcases exec_bind_eq_error.mp hexec with hprepared | ⟨values, u, hprepared, hexec⟩
  · obtain ⟨former, hfind⟩ : ∃ former, s.store.findOne m.name condition = some former :=
      Option.isSome_iff_exists.mp (List.find?_isSome.mpr ⟨row, hrow, hsatisfies⟩)
    have haddress' : m.entity.address s.context.raw s.context.condition = .ok (condition, raw) := by
      rw [hasked]
      exact haddress
    exact not_misses_prepared h hr (by rw [hasked]; rfl) haddress' hfind hprepared
  · have hstore := (h.regular.keeps Session.apart_store).store_prepared .update .beforeUpdate s
    rw [hprepared] at hstore
    change u.store = s.store at hstore
    obtain ⟨_, condition', raw', _, hcondition, hupdates⟩ :=
      updates_of_prepared h.regular hasked hprepared
    cases hupdates.address.symm.trans haddress
    obtain ⟨tables, hupdate, -⟩ := u.store.update_ok m.name values condition
    -- the preparation leaves the store alone, so the record that it found is there to be changed
    have hcount : (u.store.rows m.name).countP (·.satisfies condition) ≠ 0 := by
      rw [hstore]
      exact (List.countP_pos_iff.mpr ⟨row, hrow, hsatisfies⟩).ne'
    rw [exec_bind, exec_condition, hcondition] at hexec
    dsimp only at hexec
    rw [exec_bind, exec_inStore, hupdate] at hexec
    dsimp only at hexec
    rw [if_neg hcount] at hexec
    cases hexec

theorem not_misses_of_address {data : Record} {given : Option Record} {transaction : Option Nat}
    {g : Failure} (hg : ¬g.Misses)
    (hasked : s.context = { m.asked (.update data given transaction) with
      transaction := s.context.transaction })
    (haddress : m.entity.address data given = .error g)
    (hexec : exec m.updating s = (.error f, t)) : ¬f.Misses := by
  have hprepare : (exec (prepare m.equipment m.entity r .update) s).1 = .error g :=
    Preparation.exec_prepare_of_address_error (by rw [hasked]; exact haddress)
  have hprepared := exec_prepared h.regular .update .beforeUpdate (fun _ _ => rfl) hr s
  rcases hexec' : exec (prepare m.equipment m.entity r .update) s with ⟨failure | values, u⟩ <;>
    rw [hexec'] at hprepare hprepared <;> cases hprepare
  unfold updating at hexec
  rw [exec_bind_of_error hprepared] at hexec
  cases hexec
  exact hg

theorem not_misses_update {data : Record} {key : List String}
    (hkey : m.entity.Chooses data key) (hrow : row ∈ s.store.rows m.name)
    (hsame : ∀ name ∈ key, (row.getOrNull name).same (data.getOrNull name) = true)
    {transaction : Option Nat} (hexec : exec (m.update data none transaction) s = (.error f, t)) :
    ¬f.Misses := by
  rcases exists_work_of_carryOut h.regular (q := .update data none transaction) hexec with
    hopen | ⟨s', t', hwork, -, htables, hasked⟩
  · cases hopen
    exact Failure.not_misses_of_details rfl
  · rcases hkey.address_eq with haddress | haddress
    · have hrow' : row ∈ s'.store.rows m.name := by
        unfold Store.rows at hrow ⊢
        rwa [htables]
      exact not_misses_updating h hr hasked haddress hrow'
        (Record.satisfies_under.mpr hsame) hwork
    · exact not_misses_of_address h hr (Failure.not_misses_of_details rfl) hasked haddress hwork

end

theorem exists_row_of_update (h : m.Plain) {data : Record} {key : List String}
    (hkey : m.entity.Chooses data key) {transaction : Option Nat}
    {values : Record} (hexec : exec (m.update data none transaction) s = (.ok values, t)) :
    ∃ row ∈ s.store.rows m.name,
      ∀ name ∈ key, (row.getOrNull name).same (data.getOrNull name) = true := by
  have hdone := allOrNothing_carryOut (h.regular.keeps Session.apart_ofStore)
    (.update data none transaction) s
  rw [show exec (m.carryOut (.update data none transaction)) s = _ from hexec] at hdone
  obtain ⟨⟨-, condition, -, hcount, -, haddress⟩, -⟩ := hdone
  obtain ⟨raw, haddress⟩ := haddress (h.regular.keeps Session.apart_ofCondition)
  rcases hkey.address_eq with hfound | hfailed
  · cases haddress.symm.trans hfound
    obtain ⟨row, hrow, hsatisfies⟩ := List.countP_pos_iff.mp hcount
    exact ⟨row, hrow, Record.satisfies_under.mp hsatisfies⟩
  · cases haddress.symm.trans hfailed

theorem coerced_of_create (h : m.Plain) {data record : Record} {transaction : Option Nat}
    (hcreate : exec (m.create data transaction) s = (.ok record, t))
    {f : Field} (hf : f ∈ m.entity.fields) (hmodifiers : f.modifiers = [])
    (htimes : ¬m.entity.TimesState f.name) (hgiven : (data.getOrNull f.name).isNull = false) :
    ∃ w, f.coerce s.settings (data.getOrNull f.name) = .ok w ∧ record.get? f.name = some w := by
  obtain ⟨d, hlink⟩ := h.linked
  rcases exists_work_of_carryOut h.regular (q := .create data transaction) hcreate with
    hopen | ⟨s', t', hwork, hsettings, -, hasked⟩
  · cases hopen
  · obtain ⟨values, v, hprepared, hinsert⟩ := exec_bind_eq_ok.mp hwork
    cases hinsert
    obtain ⟨r, hr, hprepare⟩ := exists_prepare_of_prepared h.regular (fun _ _ => rfl) hprepared
    have hcompile : m.entity.compile ModifierTable.builtin m.mergesChains = .ok r := h.table ▸ hr
    have hraw : s'.context.raw = data := by
      rw [hasked]
      rfl
    rw [h.equipment] at hprepare
    rw [← hraw] at hgiven ⊢
    rw [← hsettings]
    exact Preparation.coerced_of_prepare hlink hcompile hprepare hf hmodifiers htimes hgiven

/-- The record that was created first is found again by a key of it exactly when what the values of
the key were converted to is the same as the values are: then no update that goes by these values
misses it, and otherwise every such update fails. -/
theorem update_of_create (h : m.Plain) (hnone : s.store.rows m.name = []) {data record : Record}
    {transaction : Option Nat} (hcreate : exec (m.create data transaction) s = (.ok record, t))
    {data' : Record} {key : List String} (hkey : m.entity.Chooses data' key)
    (hgiven : ∀ name ∈ key, data'.getOrNull name = data.getOrNull name) {u : Session}
    (hu : u.store = t.store) (transaction' : Option Nat) :
    (∀ f ∈ m.entity.fields, f.name ∈ key → f.modifiers = [] → ¬m.entity.TimesState f.name →
      ∃ w, f.coerce s.settings (data.getOrNull f.name) = .ok w ∧ record.get? f.name = some w) ∧
    ((∀ name ∈ key, (record.getOrNull name).same (data.getOrNull name) = true) →
      ∀ f v, exec (m.update data' none transaction') u = (.error f, v) → ¬f.Misses) ∧
    ((∃ name ∈ key, (record.getOrNull name).same (data.getOrNull name) = false) →
      ∀ changes v, exec (m.update data' none transaction') u ≠ (.ok changes, v)) := by
  have hcarries := exec_carryOut h.regular (.create data transaction) s
  rw [show exec (m.carryOut (.create data transaction)) s = _ from hcreate] at hcarries
  obtain ⟨⟨r, hr, -⟩, hrows⟩ := hcarries
  rw [show s.store.rows m.name = [] from hnone] at hrows
  rw [← hu] at hrows
  have hrow : record ∈ u.store.rows m.name := by simp [hrows]
  refine ⟨fun f hf hname hmodifiers htimes => ?_, fun hsame f v hexec => ?_,
    fun ⟨name, hname, hdiffers⟩ changes v hexec => ?_⟩
  · refine coerced_of_create h hcreate hf hmodifiers htimes ?_
    rw [← hgiven f.name hname]
    exact hkey.fills f.name hname
  · refine not_misses_update h hr hkey hrow (fun name hname => ?_) hexec
    rw [hgiven name hname]
    exact hsame name hname
  · obtain ⟨row, hrow, hsame⟩ := exists_row_of_update h hkey hexec
    rw [hrows] at hrow
    cases List.mem_singleton.mp hrow
    have hsame := hsame name hname
    rw [hgiven name hname, hdiffers] at hsame
    cases hsame

def visitor : Model where
  entity := {
    name := "visitor"
    fields := [
      { name := "id", type := "integer", displayName := "id" },
      { name := "name", displayName := "name" }]
    key := ["id"]
    uniqueKeys := [["id"]] }

def visitorDeclaration : Declaration where
  name := "visitor"
  fields := [{ name := "id", type := "integer" }, { name := "name" }]
  key := some (.single "id")

theorem visitor_plain : visitor.Plain :=
  ⟨⟨visitorDeclaration, rfl⟩, rfl, rfl⟩

def visit (id : Value) (name : String) : Record :=
  [("id", id), ("name", .text name)]

/-- The number of a visitor may be given as a text, but then the visitor is not found by it again.
-/
theorem visitor_update_of_create :
    (∃ t, exec (visitor.create (visit (.int 1) "a") none) (still Store.empty) =
        (.ok (visit (.int 1) "a"), t) ∧
      ∀ f u, exec (visitor.update (visit (.int 1) "b") none none) t = (.error f, u) →
        ¬f.Misses) ∧
    ∃ t, exec (visitor.create (visit (.text "1") "a") none) (still Store.empty) =
        (.ok (visit (.int 1) "a"), t) ∧
      ∀ changes u, exec (visitor.update (visit (.text "1") "b") none none) t ≠
        (.ok changes, u) := by
  have hchooses : ∀ id, id.isNull = false → visitor.entity.Chooses (visit id "b") ["id"] := by
    intro id hid
    exact ⟨[], [], rfl, by simpa [Record.Fills, visit, Record.getOrNull, Record.get?], nofun⟩
  obtain ⟨t, hcreate⟩ : ∃ t, exec (visitor.create (visit (.int 1) "a") none) (still Store.empty) =
      (.ok (visit (.int 1) "a"), t) := ⟨_, rfl⟩
  obtain ⟨t', hcreate'⟩ : ∃ t, exec (visitor.create (visit (.text "1") "a") none)
      (still Store.empty) = (.ok (visit (.int 1) "a"), t) := ⟨_, rfl⟩
  have hgiven : ∀ id, ∀ name ∈ ["id"],
      (visit id "b").getOrNull name = (visit id "a").getOrNull name := by
    intro id
    simp [visit, Record.getOrNull, Record.get?]
  obtain ⟨-, hfinds, -⟩ := update_of_create visitor_plain rfl hcreate
    (hchooses _ rfl) (hgiven _) rfl none
  obtain ⟨-, -, hfails⟩ := update_of_create visitor_plain rfl hcreate'
    (hchooses _ rfl) (hgiven _) rfl none
  exact ⟨⟨t, hcreate, hfinds (by decide +kernel)⟩, t', hcreate',
    hfails ⟨"id", by simp, by decide +kernel⟩⟩

end Model

end FieldPipeline
