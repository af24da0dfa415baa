import FieldPipeline.Proofs.Preparation.Updating
import FieldPipeline.Proofs.Routine.Failing
import FieldPipeline.Proofs.Routine.Pipeline

/-!
How a field that is not optional comes to be null in the values of an operation.  Null is refused
only where a value is given, and neither a conversion nor a generator makes it; what is left are a
default that is null and the field's own processors and activators.
-/

namespace FieldPipeline

open Run

def Run.Gives {α : Type} (P : α → Prop) (x : Run α) : Prop :=
  ∀ s a t, exec x s = (.ok a, t) → P a

namespace Run.Gives

variable {α β : Type} {P : β → Prop}

theorem pure {b : β} (hb : P b) : Gives P (Pure.pure b : Run β) := by
  intro s a t h
  cases h
  exact hb

theorem fail (f : Failure) : Gives P (Run.fail f : Run β) := by
  intro s a t h
  cases h

theorem bind {x : Run α} {f : α → Run β} (hf : ∀ a, Gives P (f a)) : Gives P (x >>= f) := by
  intro s b t h
  obtain ⟨a, u, -, h⟩ := exec_bind_eq_ok.mp h
  exact hf a u b t h

theorem explain {x : Run β} (hx : Gives P x) (retell : Failure → Failure) :
    Gives P (x.explain retell) := by
  intro s b t h
  rw [exec_explain] at h
  rcases hexec : exec x s with ⟨f | a, u⟩
  · rw [hexec] at h
    cases h
  · rw [hexec] at h
    cases h
    exact hx s b _ hexec

end Run.Gives

/-! ### Generated values -/

namespace Field

theorem gives_generateOf (f : Field) (type : BaseType) :
    Gives (·.isNull = false) (f.generateOf type) := by
  cases type with
  | text =>
      refine .bind fun settings => .bind fun length => ?_
      split
      · exact .fail _
      · exact .bind fun cs => .pure rfl
  | enum =>
      unfold generateOf
      dsimp only
      split
      · exact .pure rfl
      · exact .fail _
  | boolean => exact .pure rfl
  | array => exact .pure rfl
  | object => exact .pure rfl
  | integer => exact .bind fun n => .pure rfl
  | number => exact .bind fun s => .pure rfl
  | datetime => exact .bind fun m => .pure rfl

theorem gives_generate (f : Field) (locale : Value) :
    Gives (·.isNull = false) (f.generate Generator.builtin locale) := by
  unfold generate
  split
  · split
    · rename_i g hfind
      have hg : g ∈ Generator.builtin := List.mem_of_find?_eq_some hfind
      simp only [Generator.builtin, List.mem_cons, List.not_mem_nil, or_false] at hg
      rcases hg with rfl | rfl | rfl
      · exact .bind fun _ => .bind fun _ => .pure rfl
      · exact .bind fun _ => .bind fun _ => .pure rfl
      · refine .bind fun m => .pure ?_
        split <;> rfl
    · exact .fail _
  · split
    · exact gives_generateOf f _
    · exact .fail _

end Field

theorem Feature.StateTracking.stamp_ok {facts : Facts} {s t : Session}
    (h : exec (stamp facts) s = (.ok (), t)) :
    t = s ∧ stamped? facts.feature.options s.context = none ∨
    ∃ name v, stamped? facts.feature.options s.context = some name ∧ v.isNull = false ∧
      t.context.latest = s.context.latest.put name v := by
  rw [exec_stamp] at h
  cases hstamped : stamped? facts.feature.options s.context with
  | none =>
      rw [hstamped] at h
      cases h
      exact .inl ⟨rfl, rfl⟩
  | some name =>
      rw [hstamped] at h
      dsimp only at h
      split at h
      · cases h
      · rename_i f hfield
        obtain ⟨v, u, hmade, h⟩ := exec_bind_eq_ok.mp h
        cases h
        have hcontext := (f.draws_generate (fun g hg => Generator.draws_builtin g hg)
          s.context.locale).context_eq s
        rw [hmade] at hcontext
        change u.context = s.context at hcontext
        refine .inr ⟨name, v, rfl, f.gives_generate _ s v u hmade, ?_⟩
        change u.context.latest.put name v = _
        rw [hcontext]

theorem FeatureUse.stamps_of_runRules {e : Entity} (h : e.Sound) {u : FeatureUse}
    (hu : u ∈ e.features) {s t : Session}
    (hexec : exec (u.runRules (Feature.rulesOf Feature.builtin) e .postDataValidation) s =
      (.ok (), t)) :
    t = s ∧ (u.name = Feature.stateTracking.name →
      Feature.StateTracking.stamped? u.options s.context = none) ∨
    u.name = Feature.stateTracking.name ∧ ∃ name v,
      Feature.StateTracking.stamped? u.options s.context = some name ∧ v.isNull = false ∧
        t.context.latest = s.context.latest.put name v := by
  rw [exec_runRules (h.known u hu)] at hexec
  unfold Feature.work at hexec
  dsimp only at hexec
  split at hexec
  · rename_i hname
    rcases Feature.StateTracking.stamp_ok hexec with ⟨hsame, hnone⟩ | hstamps
    · exact .inl ⟨hsame, fun _ => hnone⟩
    · exact .inr ⟨hname, hstamps⟩
  · rename_i hname
    cases hexec
    exact .inl ⟨rfl, fun h => absurd h hname⟩

/-! ### Where null comes from -/

/-- Whether a record has null under a name. -/
def Record.NullAt (name : String) (r : Record) : Prop :=
  ∃ v, r.get? name = some v ∧ v.isNull = true

theorem Record.not_nullAt_put {r : Record} {key name : String} {v : Value} (hv : v.isNull = false)
    (h : ¬r.NullAt name) : ¬(r.put key v).NullAt name := by
  rintro ⟨w, hw, hnull⟩
  rw [get?_put] at hw
  split at hw
  · cases hw
    rw [hv] at hnull
    cases hnull
  · exact h ⟨w, hw, hnull⟩

namespace Operation

variable {entity target : String} {calls : List Call} {scope : Record} {v : Value} {s t : Session}

theorem exists_call_of_derive?
    (h : exec (derive? entity target scope calls) s = (.ok (some v), t)) :
    ∃ before c after u, calls = before ++ c :: after ∧
      exec (derive? entity target scope before) s = (.ok none, u) ∧
      (exec (c.invoke entity target scope []) u).1 = .ok v := by
  induction calls generalizing s with
  | nil => cases h
  | cons c calls ih =>
      rw [derive?, exec_bind_eq_ok] at h
      obtain ⟨applies, u, happlies, h⟩ := h
      cases applies with
      | true =>
          rw [if_pos rfl, exec_bind_eq_ok] at h
          obtain ⟨w, u', hinvoke, h⟩ := h
          cases h
          rw [exec_ofExcept] at happlies
          cases congrArg Prod.snd happlies
          exact ⟨[], c, calls, s, rfl, rfl, by rw [hinvoke]⟩
      | false =>
          obtain ⟨before, c', after, u', rfl, hbefore, hv⟩ := ih h
          refine ⟨c :: before, c', after, u', rfl, ?_, hv⟩
          rw [derive?, exec_bind_of_ok happlies]
          exact hbefore

theorem exists_reaches_of_nullAt {o : Operation} (hcalls : o.calls ≠ [])
    (hdraws : ∀ c ∈ o.calls, c.modifier.Draws) (hs : ¬s.context.latest.NullAt o.target)
    (ht : t.context.latest.NullAt o.target)
    (h : exec (runCalls entity o.target o.kind o.calls) s = (.ok (), t)) :
    o.kind ≠ .validator ∧ ∃ c scope given u v, o.Reaches entity s c scope given u ∧
      (exec (c.invoke entity o.target scope given) u).1 = .ok v ∧ v.isNull = true := by
  obtain ⟨w, hw, hnull⟩ := ht
  cases hkind : o.kind with
  | validator =>
      rw [hkind, exec_runCalls_validator] at h
      have hcontext := (@draws_validate entity o.target o.calls hdraws s.context.scope
        (s.context.latest.getOrNull o.target)).context_eq s
      rw [h] at hcontext
      change t.context = s.context at hcontext
      exact absurd ⟨w, hcontext ▸ hw, hnull⟩ hs
  | processor =>
      rw [hkind, exec_runCalls_processor, exec_bind_eq_ok] at h
      obtain ⟨v, u, hprocess, h⟩ := h
      cases h
      have hvalue : v = w := Option.some.inj ((Record.get?_put_self _ _ _).symm.trans hw)
      obtain ⟨c, scope, given, u', hreaches, hgives⟩ :=
        exists_reaches_of_process hkind hcalls hprocess
      exact ⟨nofun, c, scope, given, u', v, hreaches, hgives, hvalue ▸ hnull⟩
  | activator =>
      rw [hkind, exec_runCalls_activator, exec_bind_eq_ok] at h
      obtain ⟨derived, u, hderive, h⟩ := h
      cases derived with
      | none =>
          cases h
          have hreverse : ∀ c ∈ o.calls.reverse, c.modifier.Draws := by simpa using hdraws
          have hcontext := (@draws_derive? entity o.target _ hreverse s.context.scope).context_eq s
          rw [hderive] at hcontext
          change t.context = s.context at hcontext
          exact absurd ⟨w, hcontext ▸ hw, hnull⟩ hs
      | some v =>
          cases h
          have hvalue : v = w := Option.some.inj ((Record.get?_put_self _ _ _).symm.trans hw)
          obtain ⟨before, c, after, u', hsplit, hbefore, hgives⟩ := exists_call_of_derive? hderive
          exact ⟨nofun, c, _, _, u', v, .activator before after u' hkind hsplit hbefore, hgives,
            hvalue ▸ hnull⟩

end Operation

theorem Routine.exists_reaches_of_nullAt {e : Entity} {r : Routine} (hdraws : r.Draws)
    (hholds : ∀ g ∈ r.groups, ∀ o ∈ g.operations, g.Holds o)
    (hcalls : ∀ g ∈ r.groups, ∀ o ∈ g.operations, o.calls ≠ []) {name : String} {s t : Session}
    (hs : ¬s.context.latest.NullAt name) (ht : t.context.latest.NullAt name)
    (h : exec (r.apply e) s = (.ok (), t)) :
    ∃ o u c scope given w v, r.Starts e s o u ∧ o.target = name ∧ o.kind ≠ .validator ∧
      o.Reaches e.name u c scope given w ∧
      (exec (c.invoke e.name name scope given) w).1 = .ok v ∧ v.isNull = true := by
  obtain ⟨before, g, after, u, u', hgroups, hbefore, hu, hg, hu'⟩ :=
    exec_forM_ok_break (P := fun s : Session => ¬s.context.latest.NullAt name) hs
      (not_not_intro ht) h
  have hmem : g ∈ r.groups := by simp [hgroups]
  obtain rfl : g.target = name := by
    by_contra hne
    have hwrites := (Group.writesOnly_apply (hdraws g hmem)).writes hg
    apply hu'
    unfold Record.NullAt at hu ⊢
    rwa [hwrites.latest name fun heq => hne heq.symm]
  rw [Group.apply_eq, exec_bind_eq_ok, Group.exec_admits] at hg
  obtain ⟨admitted, w, hguard, hg⟩ := hg
  cases congrArg Prod.snd hguard
  cases admitted with
  | false =>
      cases hg
      exact absurd hu hu'
  | true =>
      rw [if_pos rfl] at hg
      obtain ⟨hverdict, hmissing⟩ := Group.run_of_answer (congrArg Prod.fst hguard)
      obtain ⟨done, o, rest, v, v', hoperations, hdone, hv, ho, hv'⟩ :=
        exec_forM_ok_break (P := fun s : Session => ¬s.context.latest.NullAt g.target) hu hu' hg
      have hmem' : o ∈ g.operations := by simp [hoperations]
      have htarget : o.target = g.target := (hholds g hmem o hmem').target_eq
      rw [not_not] at hv'
      rw [← htarget] at ho hv hv' ⊢
      obtain ⟨hkind, c, scope, given, w, value, hreaches, hgives, hnull⟩ :=
        Operation.exists_reaches_of_nullAt (hcalls g hmem o hmem') (hdraws g hmem o hmem') hv hv' ho
      refine ⟨o, v, c, scope, given, w, value, ?_, rfl, hkind, hreaches, hgives, hnull⟩
      exact ⟨before, g, after, done, rest, u, hgroups, hbefore, hverdict, hmissing, hoperations,
        hdone⟩

theorem Entity.not_nullAt_runRules {e : Entity} (hsound : e.Sound) (point : RulePoint)
    {name : String} {s t : Session} (hs : ¬s.context.latest.NullAt name)
    (h : exec (e.runRules (Feature.rulesOf Feature.builtin) point) s = (.ok (), t)) :
    ¬t.context.latest.NullAt name := by
  refine exec_forM_ok_induct (P := fun s : Session => ¬s.context.latest.NullAt name)
    (fun u hu s t hs hwork => ?_) hs h
  by_cases hpoint : point = .postDataValidation
  · subst hpoint
    rcases FeatureUse.stamps_of_runRules hsound hu hwork with
      ⟨rfl, -⟩ | ⟨-, stamp, v, -, hv, hlatest⟩
    · exact hs
    · rw [hlatest]
      exact Record.not_nullAt_put hv hs
  · have hsame := Feature.exec_work_snd hpoint u.name ⟨u, e⟩ s
    rw [← FeatureUse.exec_runRules (hsound.known u hu), hwork] at hsame
    change t = s at hsame
    exact hsame ▸ hs

namespace Preparation

variable {equipment : Equipment} {e : Entity} {mode : Mode} {f : Field} {s t : Session}

/-- Whether no input can make a field null. -/
def Guarded (f : Field) : Prop :=
  f.optional = false ∨ f.readOnly = true

/-- What filling comes to for such a field: it has a value, or its default, or it stays absent,
which on a creation is left to the store when the field is not optional. -/
inductive Fulfils (mode : Mode) (f : Field) (raw latest : Record) : Prop
  | value (v : Value) (hv : latest.get? f.name = some v) (hnull : v.isNull = false)
  | default (hmode : mode = .create) (hgiven : raw.get? f.name = none)
      (hstore : f.createByStore = false) (hdefault : f.hasDefault = true)
      (hv : latest.get? f.name = some f.default)
  | absent (hv : latest.get? f.name = none)
      (hstore : mode = .create → f.optional = false → f.createByStore = true)

theorem fulfils_fillGiven (hguarded : Guarded f) {v : Value} {raw : Record}
    (h : exec (fillGiven e mode f v) s = (.ok (), t)) : Fulfils mode f raw t.context.latest := by
  obtain ⟨hreadOnly, w, rfl, ⟨-, hoptional, -⟩ | ⟨-, hcoerce⟩⟩ := exec_fillGiven_ok h
  · rcases hguarded with hrequired | hguarded
    · cases hrequired.symm.trans hoptional
    · cases hguarded.symm.trans hreadOnly
  · exact .value w (Record.get?_put_self _ _ _) (Field.isNull_coerce hcoerce)

theorem fulfils_fillGenerated (hgenerators : equipment.generators = Generator.builtin)
    {raw : Record} (h : exec (fillGenerated equipment e f) s = (.ok (), t)) :
    Fulfils mode f raw t.context.latest := by
  obtain ⟨v, u, hmade, h⟩ := exec_bind_eq_ok.mp h
  cases h
  refine .value v (Record.get?_put_self _ _ _) ?_
  have hgives : Gives (·.isNull = false) (generated equipment e f) := by
    refine .bind fun c => .explain ?_ _
    rw [hgenerators]
    exact f.gives_generate _
  exact hgives _ _ _ hmade

section

variable (hgenerators : equipment.generators = Generator.builtin) (hguarded : Guarded f)
  (hs : s.context.latest.get? f.name = none)
include hgenerators hs

theorem fulfils_fillOnUpdate {raw : Record}
    (h : exec (fillOnUpdate equipment e f) s = (.ok (), t)) :
    Fulfils .update f raw t.context.latest := by
  unfold fillOnUpdate at h
  rw [exec_bind_of_ok (exec_context s)] at h
  split at h
  · cases h
    exact .absent hs nofun
  · split at h
    · exact fulfils_fillGenerated hgenerators h
    · cases h

theorem fulfils_fillOnCreate (hgiven : s.context.raw.get? f.name = none)
    (h : exec (fillOnCreate equipment e f) s = (.ok (), t)) :
    Fulfils .create f s.context.raw t.context.latest := by
  unfold fillOnCreate at h
  split at h
  · rename_i hstore
    cases h
    exact .absent hs fun _ _ => hstore
  · rename_i hstore
    split at h
    · rename_i hdefault
      cases h
      exact .default rfl hgiven (by simpa using hstore) hdefault (Record.get?_put_self _ _ _)
    · split at h
      · exact fulfils_fillGenerated hgenerators h
      · split at h
        · rename_i hoptional
          cases h
          exact .absent hs fun _ hrequired => absurd hoptional (by simp [hrequired])
        · cases h

include hguarded

theorem fulfils_fillField (h : exec (fillField equipment e mode f) s = (.ok (), t)) :
    Fulfils mode f s.context.raw t.context.latest := by
  unfold fillField at h
  rw [exec_bind_of_ok (exec_context s)] at h
  split at h
  · exact fulfils_fillGiven hguarded h
  · rename_i hgiven
    cases mode with
    | update => exact fulfils_fillOnUpdate hgenerators hs h
    | create => exact fulfils_fillOnCreate hgenerators hs hgiven h

end

theorem fulfils_fill (hsound : e.Sound) (hgenerators : equipment.generators = Generator.builtin)
    (hf : f ∈ e.fields) (hguarded : Guarded f) (hs : s.context.latest = [])
    (h : exec (fill equipment e mode) s = (.ok (), t)) :
    Fulfils mode f s.context.raw t.context.latest := by
  have hdraws : ∀ g ∈ equipment.generators, g.Draws := fun g hg =>
    Generator.draws_of_mem_builtin (hgenerators ▸ hg)
  obtain ⟨v, w, hbefore, hturn, hafter⟩ := exists_own_turn_of_fill hdraws hsound.distinct hf h
  have hnone : v.context.latest.get? f.name = none := by
    rw [hbefore.latest f.name (not_not_intro rfl), hs]
    rfl
  have hdone := fulfils_fillField hgenerators hguarded hnone hturn
  rw [hbefore.raw] at hdone
  have hsame : t.context.latest.get? f.name = w.context.latest.get? f.name :=
    hafter.latest f.name (not_not_intro rfl)
  cases hdone with
  | value v hv hnull => exact .value v (hsame.trans hv) hnull
  | default hmode hgiven hstore hdefault hv =>
      exact .default hmode hgiven hstore hdefault (hsame.trans hv)
  | absent hv hstore => exact .absent (hsame.trans hv) hstore

/-- How a field that no input can make null comes to be null: a creation uses its default, or one of
its processors or activators gives null. -/
inductive Voids (equipment : Equipment) (e : Entity) (r : Routine) (mode : Mode) (s : Session)
    (f : Field) : Prop
  | default (hmode : mode = .create) (hgiven : s.context.raw.get? f.name = none)
      (hstore : f.createByStore = false) (hdefault : f.hasDefault = true)
      (hnull : f.default.isNull = true)
  | call {v w t u : Session} {o : Operation} {c : Call} {scope : Record} {given : List Value}
      {value : Value} (hbegins : Begins equipment e r mode s v)
      (hfill : exec (fill equipment e mode) (v.atPoint .perFieldFill) = (.ok (), w))
      (hstarts : r.Starts e (w.atPoint .applyRoutine) o t) (htarget : o.target = f.name)
      (hkind : o.kind ≠ .validator) (hreaches : o.Reaches e.name t c scope given u)
      (hgives : (exec (c.invoke e.name f.name scope given) u).1 = .ok value)
      (hnull : value.isNull = true)

section

variable {d : Declaration} {merging hasStore : Bool} {r : Routine} {values : Record}
  (hlink : d.link ⟨Feature.builtin, Generator.builtin⟩ = .ok e)
  (hr : e.compile ModifierTable.builtin merging = .ok r)
include hlink hr

section

variable (h : exec (prepare { hasStore } e r mode) s = (.ok values, t)) (hf : f ∈ e.fields)
include h hf

theorem voids_of_nullAt (hguarded : Guarded f) (hnull : values.NullAt f.name) :
    Voids { hasStore } e r mode s f := by
  have hsound := d.sound_of_link rfl hlink
  have hdraws : r.Draws := Entity.draws_of_compile (fun _ hm => ModifierTable.draws_builtin hm) hr
  obtain ⟨v, u, hbegins, hlater, rfl, rfl⟩ := exec_prepare_ok h
  obtain ⟨filled, applied, stamped, hfill, happly, hstamp, hcheck⟩ := exec_later_ok hlater
  have happlied : applied.context.latest.NullAt f.name := by
    by_contra hnot
    have hstamped := Entity.not_nullAt_runRules (s := applied.atPoint .postValidation) hsound _
      hnot hstamp
    exact Entity.not_nullAt_runRules hsound _ hstamped hcheck hnull
  by_cases hfilled : filled.context.latest.NullAt f.name
  · obtain ⟨w, hw, hwnull⟩ := hfilled
    cases fulfils_fill (s := v.atPoint .perFieldFill) hsound rfl hf hguarded
      hbegins.latest_and_mode.1 hfill with
    | value v hv hvnull =>
        cases hv.symm.trans hw
        rw [hvnull] at hwnull
        cases hwnull
    | absent hv => cases hv.symm.trans hw
    | default hmode hgiven hstore hdefault hv =>
        cases hv.symm.trans hw
        subst hmode
        cases hbegins
        exact .default rfl hgiven hstore hdefault hwnull
  · have hholds := Entity.holds_of_compile hr
    have hcalls : ∀ g ∈ r.groups, ∀ o ∈ g.operations, o.calls ≠ [] := by
      obtain ⟨_, _, _, _, rfl⟩ := Entity.compile_ok hr
      exact fun g hg o ho => Operation.calls_ne_nil (Group.mem_of_mem_ofOrder hg ho)
    obtain ⟨o, t, c, scope, given, w, value, hstarts, htarget, hkind, hreaches, hgives, hgnull⟩ :=
      Routine.exists_reaches_of_nullAt (s := filled.atPoint .applyRoutine) hdraws hholds hcalls
        hfilled happlied happly
    exact .call hbegins hfill hstarts htarget hkind hreaches hgives hgnull

theorem has_of_prepare_create (hrequired : f.optional = false) (hmode : mode = .create)
    (hstore : f.createByStore = false) : values.has f.name = true := by
  have hsound := d.sound_of_link rfl hlink
  have hdraws : r.Draws := Entity.draws_of_compile (fun _ hm => ModifierTable.draws_builtin hm) hr
  obtain ⟨v, u, hbegins, hlater, rfl, rfl⟩ := exec_prepare_ok h
  obtain ⟨filled, applied, stamped, hfill, happly, hstamp, hcheck⟩ := exec_later_ok hlater
  have hfilled : filled.context.latest.has f.name = true := by
    cases fulfils_fill (s := v.atPoint .perFieldFill) hsound rfl hf (.inl hrequired)
      hbegins.latest_and_mode.1 hfill with
    | value v hv => exact Record.has_of_get?_eq_some hv
    | default _ _ _ _ hv => exact Record.has_of_get?_eq_some hv
    | absent hv hleft =>
        rw [hleft hmode hrequired] at hstore
        cases hstore
  have happlied := ((Routine.writesOnly_apply hdraws).writes happly).grows f.name hfilled
  have hstamped := ((e.writesOnly_runRules hsound _).writes hstamp).grows f.name happlied
  exact ((e.writesOnly_runRules hsound _).writes hcheck).grows f.name hstamped

end

theorem Voids.modified (hf : f ∈ e.fields) (h : Voids { hasStore } e r mode s f) :
    f.hasDefault = true ∧ f.default.isNull = true ∨ f.modifiers ≠ [] := by
  cases h with
  | default _ _ _ hdefault hnull => exact .inl ⟨hdefault, hnull⟩
  | @call _ _ _ _ o _ _ _ _ _ _ hstarts htarget =>
      right
      obtain ⟨before, g, after, done, rest, _, hgroups, _, _, _, hoperations, _⟩ := hstarts
      have hg : g ∈ r.groups := by simp [hgroups]
      obtain ⟨f', hf', hname, hmodifiers⟩ := Entity.exists_modified_of_compile hr hg
      rw [← (Entity.holds_of_compile hr g hg o (by simp [hoperations])).target_eq, htarget] at hname
      have hsound := d.sound_of_link rfl hlink
      rwa [← List.inj_on_of_nodup_map hsound.distinct hf' hf hname]

/-- Of the values of an operation that succeeds, one of a field that is not optional is null only by
the default of the field or by its own processors and activators; and a creation has a value for it
unless the store gives it one. -/
theorem voids_of_prepare
    (h : exec (prepare { hasStore } e r mode) s = (.ok values, t)) (hf : f ∈ e.fields)
    (hrequired : f.optional = false) :
    (values.NullAt f.name → Voids { hasStore } e r mode s f ∧
      (f.hasDefault = true ∧ f.default.isNull = true ∨ f.modifiers ≠ [])) ∧
      (mode = .create → f.createByStore = false → values.has f.name = true) := by
  constructor
  · intro hnull
    have hvoids := voids_of_nullAt hlink hr h hf (.inl hrequired) hnull
    exact ⟨hvoids, hvoids.modified hlink hr hf⟩
  · exact has_of_prepare_create hlink hr h hf hrequired

end

def pupilDeclaration : Declaration where
  name := "pupil"
  fields := [{ name := "id", type := "integer" }, { name := "nick", optional := true },
    { name := "display", modifiers := [
      { kind := "Activator", name := "copy", args := [.fieldRef "nick"] }] }]
  key := some (.single "id")

def pupilDisplay : Field where
  name := "display"
  displayName := "display"
  modifiers := [{ kind := "Activator", name := "copy", args := [.fieldRef "nick"] }]

def pupil : Entity where
  name := "pupil"
  fields := [{ name := "id", type := "integer", displayName := "id" },
    { name := "nick", optional := true, displayName := "nick" }, pupilDisplay]
  key := ["id"]
  uniqueKeys := [["id"]]

theorem link_pupilDeclaration :
    pupilDeclaration.link ⟨Feature.builtin, Generator.builtin⟩ = .ok pupil := rfl

def losingNick : Session where
  settings := {}
  sources := .still
  context := { raw := [("id", .int 1), ("nick", .null)] }

/-- The copy of a nickname that is taken away is null, by the activator that makes it. -/
theorem pupil_voids : ∃ r t, pupil.compile ModifierTable.builtin true = .ok r ∧
    exec (prepare {} pupil r .update) losingNick =
      (.ok [("nick", .null), ("display", .null)], t) ∧
    pupilDisplay ∈ pupil.fields ∧ pupilDisplay.optional = false ∧
    Voids {} pupil r .update losingNick pupilDisplay := by
  obtain ⟨r, hr⟩ : ∃ r, pupil.compile ModifierTable.builtin true = .ok r := ⟨_, rfl⟩
  obtain ⟨t, hprepare⟩ : ∃ t, exec (prepare {} pupil r .update) losingNick =
      (.ok [("nick", .null), ("display", .null)], t) := by
    cases hr
    exact ⟨_, rfl⟩
  have hmem : pupilDisplay ∈ pupil.fields := by simp [pupil]
  exact ⟨r, t, hr, hprepare, hmem, rfl,
    ((voids_of_prepare link_pupilDeclaration hr hprepare hmem rfl).1 ⟨.null, rfl, rfl⟩).1⟩

end Preparation

end FieldPipeline
