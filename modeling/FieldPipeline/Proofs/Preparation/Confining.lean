import FieldPipeline.Proofs.Preparation.Addressing
import FieldPipeline.Proofs.Preparation.Loading
import FieldPipeline.Proofs.Preparation.Stamping

/-!
To which fields an update is confined.  When its routine was applied, it has values for all that it
was given, and beyond these only for what is generated and for what is derived from any of them; of
the rules only those that stamp a state add to that.  When the record before it is known, no field
that has its last value there is among them.
-/

namespace FieldPipeline

open Run Feature.StateTracking

variable {equipment : Equipment} {e : Entity} {r : Routine} {f : Field} {s t : Session}

namespace Preparation

theorem has_of_fillGiven {mode : Mode} {v : Value}
    (h : exec (fillGiven e mode f v) s = (.ok (), t)) : t.context.latest.has f.name = true := by
  obtain ⟨-, w, rfl, -⟩ := exec_fillGiven_ok h
  exact s.has_write f.name w

theorem has_of_fillField {mode : Mode} (hgiven : s.context.raw.has f.name = true)
    (h : exec (fillField equipment e mode f) s = (.ok (), t)) :
    t.context.latest.has f.name = true := by
  unfold fillField at h
  rw [exec_bind_of_ok (exec_context s)] at h
  unfold Record.has at hgiven
  obtain ⟨v, hv⟩ := Option.isSome_iff_exists.mp hgiven
  rw [hv] at h
  exact has_of_fillGiven h

theorem has_of_fill_of_given (hgenerators : ∀ g ∈ equipment.generators, g.Draws) {mode : Mode}
    (hf : f ∈ e.fields) (hgiven : s.context.raw.has f.name = true)
    (h : exec (fill equipment e mode) s = (.ok (), t)) : t.context.latest.has f.name = true := by
  obtain ⟨u, v, hu, hturn, hv⟩ := exists_turn_of_fill hgenerators hf h
  rw [← hu.raw] at hgiven
  exact hv.grows f.name (has_of_fillField hgiven hturn)

end Preparation

/-! ### What the stamping of states adds -/

/-- Whether values become others when the time of a state that they hold is written. -/
def Entity.Stamps (e : Entity) (latest latest' : Record) : Prop :=
  ∃ u ∈ e.features, u.name = Feature.stateTracking.name ∧
    ∃ f, e.Tracks u.options f ∧ (latest.getOrNull f.name).isNull = false ∧
      stampName f.name (latest.getOrNull f.name).plain ∈ e.fieldNames ∧
      ∃ v, latest' = latest.put (stampName f.name (latest.getOrNull f.name).plain) v

def Entity.TimesState (e : Entity) (name : String) : Prop :=
  name ∈ e.fieldNames ∧ ∃ u ∈ e.features, u.name = Feature.stateTracking.name ∧
    ∃ f, e.Tracks u.options f ∧ ∃ state, name = stampName f.name state

theorem Entity.Stamps.has {latest latest' : Record} (h : e.Stamps latest latest') {name : String} :
    (latest.has name = true → latest'.has name = true) ∧
      (latest'.has name = true → latest.has name = true ∨ e.TimesState name) := by
  obtain ⟨u, hu, hname, f, htracks, -, hknown, v, rfl⟩ := h
  rw [Record.has_put, Bool.or_eq_true, decide_eq_true_iff]
  refine ⟨.inr, ?_⟩
  rintro (rfl | hhas)
  · exact .inr ⟨hknown, u, hu, hname, f, htracks, _, rfl⟩
  · exact .inl hhas

theorem Entity.has_of_stamps {latest values : Record}
    (h : Relation.ReflTransGen e.Stamps latest values) {name : String} :
    (latest.has name = true → values.has name = true) ∧
      (values.has name = true → latest.has name = true ∨ e.TimesState name) := by
  induction h with
  | refl => exact ⟨id, .inl⟩
  | tail _ hstep ih =>
      refine ⟨fun hname => hstep.has.1 (ih.1 hname), fun hname => ?_⟩
      rcases hstep.has.2 hname with hbefore | htimes
      · exact ih.2 hbefore
      · exact .inr htimes

theorem Entity.get?_of_stamps {latest values : Record}
    (h : Relation.ReflTransGen e.Stamps latest values) {name : String}
    (hname : ¬e.TimesState name) : values.get? name = latest.get? name := by
  induction h with
  | refl => rfl
  | tail _ hstep ih =>
      obtain ⟨u, hu, htracking, f, htracks, -, hknown, v, rfl⟩ := hstep
      rw [Record.get?_put_of_ne _ (fun heq => hname ?_), ih]
      exact ⟨heq ▸ hknown, u, hu, htracking, f, htracks, _, heq.symm⟩

theorem Feature.StateTracking.mem_of_stamp {facts : Facts} {name : String}
    (h : exec (stamp facts) s = (.ok (), t))
    (hstamped : stamped? facts.feature.options s.context = some name) :
    name ∈ facts.entity.fieldNames := by
  rw [exec_stamp, hstamped] at h
  dsimp only at h
  split at h
  · cases h
  · rename_i f hfield
    rw [Entity.mem_fieldNames, Entity.hasField, hfield]
    rfl

theorem Entity.stamps_of_runRules (h : e.Sound)
    (htracks : ∀ u ∈ e.features, u.name = Feature.stateTracking.name → ∃ f, e.Tracks u.options f)
    (hexec : exec (e.runRules (Feature.rulesOf Feature.builtin) .postDataValidation) s =
      (.ok (), t)) : Relation.ReflTransGen e.Stamps s.context.latest t.context.latest := by
  refine exec_forM_ok_induct
    (P := fun t : Session => Relation.ReflTransGen e.Stamps s.context.latest t.context.latest)
    (fun u hu s' t' hs' hexec' => ?_) .refl hexec
  rcases FeatureUse.stamps_of_runRules h hu hexec' with
    ⟨rfl, -⟩ | ⟨hname, stamp, v, hstamped, -, hlatest⟩
  · exact hs'
  · obtain ⟨f, htracks⟩ := htracks u hu hname
    have hmem : stamp ∈ e.fieldNames := by
      rw [FeatureUse.exec_runRules (h.known u hu), Feature.work, if_pos hname] at hexec'
      exact mem_of_stamp hexec' hstamped
    obtain ⟨hstate, rfl, -⟩ := of_stamped? hstamped
    rw [htracks.plain_tracked] at hstate hmem hlatest
    exact hs'.tail ⟨u, hu, hname, f, htracks, hstate, hmem, v, hlatest⟩

namespace Preparation

section

variable {v : Session} (h : Begins equipment e r .update s v)
include h

theorem settles_of_begins : ∃ condition raw,
    e.address s.context.raw s.context.condition = .ok (condition, raw) ∧
      exec (settleCondition e) ((s.begun .update).atPoint .resolveExisting) =
        (.ok condition, s.identified condition raw) := by
  change exec (identify equipment e r) ((s.begun .update).atPoint .resolveExisting) = _ at h
  rcases haddress : e.address s.context.raw s.context.condition with failure | ⟨condition, raw⟩
  · have hsettle := exec_settleCondition_error
      (s := (s.begun .update).atPoint .resolveExisting) haddress
    rw [exec_identify, hsettle] at h
    cases h
  · exact ⟨condition, raw, rfl,
      exec_settleCondition_ok (s := (s.begun .update).atPoint .resolveExisting) haddress⟩

theorem address_of_begins :
    ∃ condition, e.address s.context.raw s.context.condition = .ok (condition, v.context.raw) := by
  obtain ⟨condition, raw, haddress, hsettle⟩ := settles_of_begins h
  have hsame := @ofAddress_identify equipment e r ((s.begun .update).atPoint .resolveExisting)
  rw [show exec (identify equipment e r) _ = _ from h, hsettle] at hsame
  obtain rfl : v.context.raw = raw := congrArg Prod.fst hsame
  exact ⟨condition, haddress⟩

theorem eq_identified_of_begins {former : Record} (hexisting : s.context.existing = some former) :
    ∃ condition raw, e.address s.context.raw s.context.condition = .ok (condition, raw) ∧
      v = s.identified condition raw := by
  obtain ⟨condition, raw, haddress, hsettle⟩ := settles_of_begins h
  change exec (identify equipment e r) ((s.begun .update).atPoint .resolveExisting) = _ at h
  have hknown : (s.identified condition raw).context.existing.isNone = false :=
    congrArg Option.isNone hexisting
  rw [exec_identify, hsettle] at h
  dsimp only at h
  rw [hknown] at h
  cases h
  exact ⟨condition, raw, haddress, rfl⟩

end

section

variable {catalogue : Catalogue} {d : Declaration} {merging : Bool}
  (hfeatures : catalogue.features = Feature.builtin) (hlink : d.link catalogue = .ok e)
  (hrules : equipment.rules = Feature.rulesOf Feature.builtin)
  (hgenerators : ∀ g ∈ equipment.generators, g.Draws)
include hfeatures hlink hrules hgenerators

theorem applying_of_prepare (hdraws : r.Draws) {values : Record}
    (hprepare : exec (prepare equipment e r .update) s = (.ok values, t)) :
    ∃ v u, Begins equipment e r .update s v ∧ exec (applying equipment e r) v = (.ok (), u) ∧
      (∀ name, u.context.latest.has name = true →
        e.Spreads r v.context.raw v.context.existing name) ∧
      (∀ f ∈ e.fields, v.context.raw.has f.name = true → u.context.latest.has f.name = true) ∧
      Relation.ReflTransGen e.Stamps u.context.latest values := by
  have hsound := d.sound_of_link hfeatures hlink
  obtain ⟨v, w, hbegins, hlater, rfl, rfl⟩ := exec_prepare_ok hprepare
  obtain ⟨hempty, hmode⟩ := hbegins.latest_and_mode
  obtain ⟨filled, applied, stamped, hfill, happly, hstamp, hcheck⟩ := exec_later_ok hlater
  rw [hrules] at hstamp hcheck
  obtain ⟨rfl, -⟩ := e.exec_lastChecks_ok hsound .update (fun _ => id) hcheck
  refine ⟨v, applied.atPoint .postValidation, hbegins, ?_,
    (spreads_of_apply hsound hgenerators hdraws hmode hempty hfill happly).2,
    fun f hf hgiven => ?_, ?_⟩
  · have hfilling : exec (filling equipment e) v = (.ok (), filled.atPoint .applyRoutine) := by
      unfold filling
      rw [exec_bind_of_ok (exec_reach _ _), exec_bind_of_ok hfill, exec_reach]
    unfold applying
    rw [exec_bind_of_ok hfilling, exec_bind_of_ok happly, exec_reach]
  · have hfilled := has_of_fill_of_given (s := v.atPoint .perFieldFill) hgenerators hf hgiven hfill
    exact ((Routine.writesOnly_apply hdraws).writes happly).grows f.name hfilled
  · exact e.stamps_of_runRules (t := w) hsound (fun _ => d.tracks_of_link hfeatures hlink) hstamp

/-- An update that knows the record before it writes over the last value of a field only as over the
time of a reversible state. -/
theorem restamps_of_prepare (hdraws : r.Draws) {former values : Record}
    (hexisting : s.context.existing = some former)
    (hprepare : exec (prepare equipment e r .update) s = (.ok values, t)) {name : String}
    (hsettled : e.Settled (some former) name) (hhas : values.has name = true) :
    e.Restamps name := by
  have hsound := d.sound_of_link hfeatures hlink
  obtain ⟨v, u, hbegins, hlater, rfl, rfl⟩ := exec_prepare_ok hprepare
  obtain ⟨hempty, hmode⟩ := hbegins.latest_and_mode
  obtain ⟨condition, raw, -, rfl⟩ := eq_identified_of_begins hbegins hexisting
  have htouches := touches_later hsound hrules hgenerators hdraws hmode hempty hlater name hhas
  have hknown : (s.identified condition raw).context.existing = some former := hexisting
  rw [hknown] at htouches
  exact e.restamps_of_touches hsettled htouches

/-- When no use tracks states that are reversible, an update that knows the record before it keeps
every field that has its last value there: its values do not name it, and its input must not. -/
theorem kept_of_prepare (hcompile : e.compile ModifierTable.builtin merging = .ok r)
    (hlasting : ∀ u ∈ e.features, u.name = Feature.stateTracking.name →
      isReversible u.options = false)
    {former : Record} (hexisting : s.context.existing = some former) :
    (∀ values, (exec (prepare equipment e r .update) s).1 = .ok values →
      ∀ f ∈ e.fields, f.writeOnce = true → (former.getOrNull f.name).isNull = false →
        values.has f.name = false) ∧
    ∀ condition raw, e.address s.context.raw s.context.condition = .ok (condition, raw) →
      ∀ f ∈ e.fields, f.writeOnce = true → (former.getOrNull f.name).isNull = false →
        raw.has f.name = true →
          ∃ failure, (exec (prepare equipment e r .update) s).1 = .error failure := by
  have hsound := d.sound_of_link hfeatures hlink
  have hdraws : r.Draws :=
    Entity.draws_of_compile (fun m hm => ModifierTable.draws_builtin hm) hcompile
  have hkept : ∀ values, (exec (prepare equipment e r .update) s).1 = .ok values →
      ∀ f ∈ e.fields, f.writeOnce = true → (former.getOrNull f.name).isNull = false →
        values.has f.name = false := by
    intro values hvalues f hf honce hformer
    have hsettled : e.Settled (some former) f.name :=
      ⟨by rw [hsound.field?_eq hf]; exact honce, former, rfl, hformer⟩
    by_contra hhas
    rw [Bool.not_eq_false] at hhas
    obtain ⟨u, hu, hname, hreversible, -⟩ := restamps_of_prepare hfeatures hlink hrules hgenerators
      hdraws hexisting (Prod.ext hvalues rfl) hsettled hhas
    rw [hlasting u hu hname] at hreversible
    cases hreversible
  refine ⟨hkept, fun condition raw haddress f hf honce hformer hgiven => ?_⟩
  rcases hprepare : exec (prepare equipment e r .update) s with ⟨failure | values, t⟩
  · exact ⟨failure, rfl⟩
  · exfalso
    obtain ⟨v, u, hbegins, -, -, hhas, hstamps⟩ :=
      applying_of_prepare hfeatures hlink hrules hgenerators hdraws hprepare
    obtain ⟨condition', haddress'⟩ := address_of_begins hbegins
    cases haddress.symm.trans haddress'
    have hthere := (Entity.has_of_stamps hstamps).1 (hhas f hf hgiven)
    rw [hkept values (by rw [hprepare]) f hf honce hformer] at hthere
    cases hthere

end

def parcelDeclaration : Declaration where
  name := "parcel"
  fields := [
    { name := "id", type := "integer" },
    { name := "status", type := "enum", values := some ["sent", "lost"] },
    { name := "changed", type := "datetime", optional := true, forceUpdate := true, auto := true },
    { name := "label", optional := true, writeOnce := true, modifiers := [
      { kind := "Activator", name := "copy", args := [.fieldRef "status"] }] },
    { name := "remark", optional := true }]
  key := some (.single "id")
  features := [{ name := "state_tracking", options := .text "status" }]

def parcelLabel : Field where
  name := "label"
  optional := true
  writeOnce := true
  displayName := "label"
  modifiers := [{ kind := "Activator", name := "copy", args := [.fieldRef "status"] }]

def parcelStamp (state : String) : Field where
  name := "status_" ++ state ++ "_timestamp"
  type := "datetime"
  optional := true
  readOnly := true
  writeOnce := true
  displayName := "status_" ++ state ++ "_timestamp"

def parcel : Entity where
  name := "parcel"
  fields := [
    { name := "id", type := "integer", displayName := "id" },
    { name := "status", type := "enum", values := some ["sent", "lost"], displayName := "status" },
    { name := "changed", type := "datetime", optional := true, forceUpdate := true, auto := true,
      displayName := "changed" },
    parcelLabel, { name := "remark", optional := true, displayName := "remark" },
    parcelStamp "sent", parcelStamp "lost"]
  key := ["id"]
  uniqueKeys := [["id"]]
  features := [⟨"state_tracking", Feature.StateTracking.optionsOf (.text "status") false⟩]

theorem link_parcelDeclaration :
    parcelDeclaration.link ⟨Feature.builtin, Generator.builtin⟩ = .ok parcel := by
  with_unfolding_all rfl

def parcelSession (raw : Record) (existing : Option Record) : Session where
  settings := {}
  sources := .still
  store := .ofTables [("parcel", [[("id", .int 1), ("status", .text "lost")]])]
  context := { raw, existing }

def sentParcel : Record :=
  [("id", .int 1), ("status", .text "sent"), ("label", .text "sent"),
    ("status_sent_timestamp", .int 0)]

/-- When it is sent again, its label and the time stay, and no other label can be given to it. -/
theorem parcel_kept : ∃ r, parcel.compile ModifierTable.builtin true = .ok r ∧
    (∃ values t, exec (prepare {} parcel r .update)
        (parcelSession [("id", .int 1), ("status", .text "sent")] sentParcel) = (.ok values, t) ∧
      values.has "label" = false ∧ values.has "status_sent_timestamp" = false) ∧
    ∃ failure, (exec (prepare {} parcel r .update)
      (parcelSession [("id", .int 1), ("label", .text "lost")] sentParcel)).1 =
        .error failure := by
  obtain ⟨r, hr⟩ : ∃ r, parcel.compile ModifierTable.builtin true = .ok r := ⟨_, rfl⟩
  obtain ⟨values, t, hprepare⟩ : ∃ values t, exec (prepare {} parcel r .update)
      (parcelSession [("id", .int 1), ("status", .text "sent")] sentParcel) = (.ok values, t) := by
    cases hr
    exact ⟨_, _, by with_unfolding_all rfl⟩
  have hgenerators : ∀ g ∈ ({} : Equipment).generators, g.Draws :=
    fun g hg => Generator.draws_builtin g hg
  have hlasting : ∀ u ∈ parcel.features, u.name = Feature.stateTracking.name →
      isReversible u.options = false := by
    intro u hu _
    cases List.mem_singleton.mp hu
    with_unfolding_all rfl
  have hkept := fun raw => kept_of_prepare (s := parcelSession raw sentParcel) rfl
    link_parcelDeclaration rfl hgenerators hr hlasting rfl
  have hvalues := (hkept _).1 values (by rw [hprepare])
  refine ⟨r, hr, ⟨values, t, hprepare, ?_, ?_⟩, ?_⟩
  · exact hvalues parcelLabel (by simp [parcel]) rfl rfl
  · exact hvalues (parcelStamp "sent") (by simp [parcel]) rfl rfl
  · exact (hkept _).2 [("id", .int 1)] [("label", .text "lost")] rfl parcelLabel
      (by simp [parcel]) rfl rfl rfl

end Preparation

end FieldPipeline
