import FieldPipeline.Proofs.Model.Request
import FieldPipeline.Proofs.Modifier.Reading
import FieldPipeline.Proofs.Preparation.Checking

/-!
What stays valid across updates.  When the last use on a field is a validator that looks at the
field and at those that it reads, every record in a store satisfies it, whatever was created and
updated before: an update that changes a field that the validator reads must give the validated
field as well.
-/

namespace FieldPipeline

open Run

namespace Token

variable {entity : String} {t : Token} {r r' : Record}

/-- Whether the result of a use depends on the values of its field and of the fields that it
reads, and on nothing else. -/
def IsPure (entity : String) (t : Token) : Prop :=
  ∀ (r r' : Record) s s', Expression.AgreeOn (t.target :: t.references) r r' →
    (exec (t.call.invoke entity t.target r [r.getOrNull t.target]) s).1 =
      (exec (t.call.invoke entity t.target r' [r'.getOrNull t.target]) s').1

theorem isPure_of_steady (hkind : t.call.modifier.kind = .validator)
    (hsteady : t.call.modifier.Steady) (hformulas : t.call.modifier.ReadsFormulas)
    (hliteral : t.call.Literal) (hreads : ∀ name ∈ t.call.reads, name ∈ t.target :: t.references) :
    t.IsPure entity := by
  intro r r' s s' hagree
  have hvalue : r.getOrNull t.target = r'.getOrNull t.target := by
    unfold Record.getOrNull
    rw [hagree t.target (by simp)]
  have hsame : t.call.invoke entity t.target r [r.getOrNull t.target] =
      t.call.invoke entity t.target r' [r.getOrNull t.target] :=
    Call.invoke_congr hformulas hliteral (fun name hname => hagree name (hreads name hname)) _ _ _
      (by rw [hkind]; rfl)
  rw [hsame, hvalue]
  unfold Call.invoke
  rw [exec_explain, exec_explain, hsteady _ _ s s']

/-- Whether a record satisfies the validator of a token, if it has a value in the field. -/
def SatisfiedBy (entity : String) (t : Token) (r : Record) : Prop :=
  (r.getOrNull t.target).isNull = false → ∀ s, t.call.Accepts entity t.target r s

theorem IsPure.accepts (hpure : t.IsPure entity)
    (hagree : Expression.AgreeOn (t.target :: t.references) r r') {s : Session}
    (h : t.call.Accepts entity t.target r s) (s' : Session) :
    t.call.Accepts entity t.target r' s' := by
  obtain ⟨accepted, hresult, htrue⟩ := h
  exact ⟨accepted, (hpure r r' s s' hagree).symm.trans hresult, htrue⟩

theorem Checked.accepts {c : Context} (h : t.Checked entity c) (hpure : t.IsPure entity)
    (hvalue : (c.latest.getOrNull t.target).isNull = false)
    (hrecord : ∀ name ∈ t.target :: t.references, (c.lookUp? name).isSome = true →
      c.lookUp? name = r.get? name) (s : Session) : t.call.Accepts entity t.target r s := by
  obtain ⟨hthere, scope, s', haccepts, hscope⟩ := h.accepted hvalue
  refine hpure.accepts (fun name hname => ?_) haccepts s
  rw [hscope name hname]
  refine hrecord name hname ?_
  rcases List.mem_cons.mp hname with rfl | hread
  · have hhas := Record.has_of_isNull_getOrNull hvalue
    rwa [Context.lookUp?_of_has hhas]
  · exact hthere name hread

theorem Checked.satisfiedBy_create {c : Context} (h : t.Checked entity c) (hpure : t.IsPure entity)
    (hexisting : c.existing = none) : t.SatisfiedBy entity c.latest := by
  refine fun hvalue => h.accepts hpure hvalue fun name _ _ => ?_
  unfold Context.lookUp?
  rw [hexisting]
  cases c.latest.get? name <;> rfl

theorem Checked.satisfiedBy_update {c : Context} (h : t.Checked entity c) (hpure : t.IsPure entity)
    (hmode : c.mode = some .update) (hdistinct : c.latest.names.Nodup)
    (hexisting : c.existing = none ∨ c.existing = some r) (hr : t.SatisfiedBy entity r) :
    t.SatisfiedBy entity (r.update c.latest) := by
  intro hvalue s
  cases htarget : c.latest.get? t.target with
  | some v =>
      -- the new value was validated, and the fields beside it came from the changes or the record
      have hnew : (c.latest.getOrNull t.target).isNull = false := by
        rw [Record.getOrNull_update hdistinct, htarget] at hvalue
        unfold Record.getOrNull
        rwa [htarget]
      refine h.accepts hpure hnew (fun name _ hsome => ?_) s
      rw [Record.get?_update hdistinct]
      unfold Context.lookUp? at hsome ⊢
      cases hget : c.latest.get? name with
      | some _ => rfl
      | none =>
          rw [hget] at hsome
          rcases hexisting with hnone | hsame
          · rw [hnone] at hsome
            cases hsome
          · rw [hsame]
            rfl
  | none =>
      -- neither the field nor any that the validator reads is changed
      have habsent : c.latest.has t.target = false := (Record.get?_eq_none_iff _ _).mp htarget
      have hkept : Expression.AgreeOn (t.target :: t.references) r (r.update c.latest) := by
        intro name hname
        have hnone : c.latest.get? name = none := by
          rcases List.mem_cons.mp hname with rfl | hread
          · exact htarget
          · exact (Record.get?_eq_none_iff _ _).mpr (h.untouched hmode habsent name hread)
        rw [Record.get?_update hdistinct, hnone]
        rfl
      rw [Record.getOrNull_update hdistinct, htarget] at hvalue
      exact hpure.accepts hkept (hr hvalue s) s

end Token

namespace Model

variable {m : Model} {ts : List Token} {t : Token}

structure EndsWith (m : Model) (t : Token) : Prop where
  unstamped : ∀ u ∈ m.entity.features, u.name ≠ Feature.stateTracking.name
  last : ∃ ts, m.entity.tokens m.table = .ok ts ∧ Token.lastOn? ts t.target = some t
  kind_eq : t.kind = .validator

theorem EndsWith.checked (h : m.EndsWith t) (hregular : m.Regular) {r : Routine}
    (hr : m.routine = .ok r) {mode : Mode} {values : Record} {existing : Option Record}
    (hprepares : m.Prepares r mode values existing) : ∃ c : Context,
      t.Checked m.entity.name c ∧ c.mode = some mode ∧ c.latest = values ∧
        c.existing = existing ∧ c.latest.names.Nodup := by
  obtain ⟨ts, hts, hlast⟩ := h.last
  obtain ⟨before, g, done, o, after, hends, hself, hlater⟩ :=
    Entity.exists_endsAt hregular.named hregular.sound.distinct hr hts hlast
  obtain ⟨s, u, hprepare, hexisting⟩ := hprepares
  obtain ⟨hchecked, hmode, hvalues, hnodup⟩ := Preparation.checked_prepare hregular.sound
    hregular.rules hregular.generators (hregular.draws hr) h.unstamped hends hself hlater
    h.kind_eq hprepare
  exact ⟨u.context, hchecked, hmode, hvalues.symm, hexisting, hnodup⟩

theorem satisfiedBy_carryOut (hregular : m.Regular) (h : m.EndsWith t)
    (hpure : t.IsPure m.entity.name) {s : Session} {q : Request}
    (hone : m.IdentifiesOne s.store q)
    (hvalid : ∀ r ∈ s.store.rows m.name, t.SatisfiedBy m.entity.name r) :
    ∀ r ∈ (exec (m.carryOut q) s).2.store.rows m.name, t.SatisfiedBy m.entity.name r := by
  intro r' hr'
  rcases becomes_or_prepares hregular hr' with ⟨r, hr, hbecomes⟩ | ⟨routine, hroutine, hprepares⟩
  · generalize (exec (m.carryOut q) s).1 = result at hbecomes
    cases hbecomes with
    | failed | created => exact hvalid _ hr
    | updated hupdates =>
        obtain ⟨c, hchecked, hmode, rfl, hexisting, hnodup⟩ :=
          h.checked hregular hupdates.routine hupdates.prepares
        split
        · rename_i hsatisfies
          refine hchecked.satisfiedBy_update hpure hmode hnodup ?_ (hvalid r hr)
          rw [hexisting]
          rcases hupdates.knows with ⟨hnone, _⟩ | ⟨former, hformer, hfind⟩
          · exact .inl hnone
          · rw [hformer, Store.findOne_unique m.entity.name (hone _ _ hupdates.address) hr
              hsatisfies hfind]
            exact .inr rfl
        · exact hvalid r hr
  · obtain ⟨c, hchecked, _, rfl, hexisting, _⟩ := h.checked hregular hroutine hprepares
    exact hchecked.satisfiedBy_create hpure hexisting

/-- In every store that requests lead to, every record with a value in a field satisfies the
validator that is the last use on the field. -/
theorem satisfiedBy_of_reaches (hregular : m.Regular) (h : m.EndsWith t)
    (hpure : t.IsPure m.entity.name) {s : Store} (hs : m.Reaches s) {r : Record}
    (hr : r ∈ s.rows m.name) : t.SatisfiedBy m.entity.name r := by
  obtain ⟨qs, hruns⟩ := hs
  refine hruns.keeps (P := fun s => ∀ r ∈ s.rows m.name, t.SatisfiedBy m.entity.name r)
    (fun q _ session hone hvalid => ?_) nofun r hr
  exact satisfiedBy_carryOut hregular h hpure hone hvalid

def offer : Model where
  entity := {
    name := "offer"
    fields := [
      { name := "id", type := "integer", displayName := "id" },
      { name := "high", type := "integer", optional := true, displayName := "high", modifiers := [
        { kind := "Validator", name := "min", args := [.fieldRef "low"] }] },
      { name := "low", type := "integer", displayName := "low" }]
    key := ["id"]
    uniqueKeys := [["id"]] }

def offerDeclaration : Declaration where
  name := "offer"
  fields := [
    { name := "id", type := "integer" },
    { name := "high", type := "integer", optional := true, modifiers := [
      { kind := "Validator", name := "min", args := [.fieldRef "low"] }] },
    { name := "low", type := "integer" }]
  key := some (.single "id")

theorem offer_plain : offer.Plain :=
  ⟨⟨offerDeclaration, rfl⟩, rfl, rfl⟩

def newOffer : Request :=
  .create [("id", .int 1), ("high", .int 5), ("low", .int 3)] none

def newBounds : Request :=
  .update [("id", .int 1), ("high", .int 9), ("low", .int 7)] none none

def oneOffer : Store :=
  (exec (offer.carryOut newOffer) (still Store.empty)).2.store

def changedOffer : Store :=
  (exec (offer.carryOut newBounds) (still oneOffer)).2.store

theorem rows_changedOffer : (changedOffer.rows offer.name).map
    (fun r => ((r.getOrNull "high").isNull, (r.getOrNull "high").plain,
      (r.getOrNull "low").plain)) = [(false, "9", "7")] := by
  decide +kernel

def boundToken : Token where
  id := "high~0:min"
  kind := .validator
  target := "high"
  references := ["low"]
  chainable := true
  call := { modifier := Modifier.Validator.of "min" Modifier.Validator.atLeast,
            args := [.fieldRef "low"] }
  position := 0

theorem offer_endsWith : offer.EndsWith boundToken where
  unstamped := fun _ hu => by cases hu
  last := ⟨[boundToken], rfl, rfl⟩
  kind_eq := rfl

theorem boundToken_isPure : boundToken.IsPure offer.entity.name := by
  have hmem : boundToken.call.modifier ∈ Modifier.Validator.builtin := by
    simp [boundToken, Modifier.Validator.builtin]
  refine Token.isPure_of_steady rfl (Modifier.Validator.steady_builtin _ hmem)
    (ModifierTable.readsFormulas_builtin _ ?_) (fun _ hplace => ?_) (by decide)
  · exact List.mem_append_left _ (List.mem_append_left _ hmem)
  · cases hplace

theorem offer_reaches : offer.Reaches changedOffer :=
  ⟨[newOffer, newBounds], .cons ⟨trivial, still Store.empty, rfl, rfl⟩
    (.cons ⟨fun _ _ _ => List.countP_le_length, still oneOffer, rfl, rfl⟩ .nil)⟩

theorem changedOffer_satisfiedBy : ∃ r, offer.Regular ∧ offer.EndsWith boundToken ∧
    boundToken.IsPure offer.entity.name ∧ offer.Reaches changedOffer ∧
    r ∈ changedOffer.rows offer.name ∧ (r.getOrNull "high").isNull = false ∧
    ((r.getOrNull "high").plain, (r.getOrNull "low").plain) = ("9", "7") ∧
    ∀ s, boundToken.call.Accepts offer.entity.name "high" r s := by
  obtain ⟨r, hrows, hvalues⟩ := List.map_eq_singleton_iff.mp rows_changedOffer
  simp only [Prod.mk.injEq] at hvalues
  obtain ⟨hvalue, hhigh, hlow⟩ := hvalues
  have hmem : r ∈ changedOffer.rows offer.name := by simp [hrows]
  refine ⟨r, offer_plain.regular, offer_endsWith, boundToken_isPure, offer_reaches, hmem, hvalue,
    by rw [hhigh, hlow], ?_⟩
  exact satisfiedBy_of_reaches offer_plain.regular offer_endsWith boundToken_isPure offer_reaches
    hmem hvalue

end Model

end FieldPipeline
