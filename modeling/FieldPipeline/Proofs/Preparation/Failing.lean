import FieldPipeline.Proofs.Fitting
import FieldPipeline.Proofs.Preparation.Course
import FieldPipeline.Proofs.Preparation.Loading
import FieldPipeline.Proofs.Preparation.Rules
import FieldPipeline.Proofs.Routine.Failing

/-!
How a preparation fails.  With the built-in features, generators and modifiers it ends with the
values that are there, or it is rejected or misused, but for a few faults that nothing explains:
those of modifiers that escape, a key that has a name twice, a setting that is no length, and a
state that is none of the values of its field.
-/

namespace FieldPipeline

open Run

namespace Record

theorem takeKey_error {key : List String} {r : Record} {fault : Fault}
    (h : r.takeKey key = .error fault) : fault = .missingKey := by
  induction key generalizing r with
  | nil => cases h
  | cons name key ih =>
      unfold takeKey at h
      split at h
      · exact (Except.error.inj h).symm
      · rcases bind_eq_error.mp h with hrest | ⟨_, _, h⟩
        · exact ih hrest
        · cases h

theorem exists_takeKey {key : List String} (hkey : key.Nodup) {r : Record}
    (hr : ∀ name ∈ key, r.has name = true) : ∃ values, r.takeKey key = .ok values := by
  induction key generalizing r with
  | nil => exact ⟨_, rfl⟩
  | cons name key ih =>
      rw [List.nodup_cons] at hkey
      rw [List.forall_mem_cons] at hr
      have hleft : ∀ other ∈ key, (r.erase name).has other = true := by
        intro other hother
        have hne : name ≠ other := by
          rintro rfl
          exact hkey.1 hother
        unfold has
        rw [get?_erase_of_ne r hne]
        exact hr.2 other hother
      obtain ⟨values, hvalues⟩ := ih hkey.2 hleft
      obtain ⟨v, hv⟩ := Option.isSome_iff_exists.mp hr.1
      exact ⟨_, by rw [takeKey, hv, hvalues]; rfl⟩

end Record

namespace Preparation

variable {equipment : Equipment} {e : Entity} {r : Routine} {mode : Mode} {f : Field}
  {s t : Session} {failure : Failure}

theorem isDocumented_of_coerced {settings : Settings} {v : Value} {type : BaseType}
    (htype : BaseType.named? f.type = some type) (h : coerced settings e f v = .error failure) :
    failure.IsDocumented := by
  unfold coerced at h
  cases hcoerce : f.coerce settings v with
  | ok w =>
      rw [hcoerce] at h
      cases h
  | error g =>
      rw [hcoerce] at h
      cases h
      dsimp only
      rw [if_pos (Field.kind_of_coerce htype hcoerce)]
      exact trivial

theorem isDocumented_of_reject {cause : RejectionCause}
    (h : exec (Run.reject e.name cause : Run Unit) s = (.error failure, t)) :
    failure.IsDocumented := by
  cases h
  exact trivial

section Filling

def Unfilled (settings : Settings) (f : Field) (failure : Failure) : Prop :=
  failure.IsDocumented ∨ failure = .fault .wrongType ∧ f.auto = true ∧
    f.Unmade settings (.fault .wrongType)

theorem fillGiven_error {v : Value} (hf : f.Known Generator.builtin)
    (h : exec (fillGiven e mode f v) s = (.error failure, t)) : failure.IsDocumented := by
  unfold fillGiven at h
  rw [exec_bind_of_ok (exec_context s)] at h
  split at h
  · exact isDocumented_of_reject h
  · split at h
    · exact isDocumented_of_reject h
    · split at h
      · split at h
        · cases h
        · exact isDocumented_of_reject h
      · obtain ⟨type, htype, -⟩ := hf.type
        rw [exec_bind_of_ok (exec_settings s), exec_bind_eq_error, exec_ofExcept] at h
        rcases h with h | ⟨_, _, _, h⟩
        · exact isDocumented_of_coerced htype (congrArg Prod.fst h)
        · cases h

variable (hf : f.Known Generator.builtin) (hgenerators : equipment.generators = Generator.builtin)

include hf hgenerators

theorem fillGenerated_error (hauto : f.auto = true)
    (h : exec (fillGenerated equipment e f) s = (.error failure, t)) :
    Unfilled s.settings f failure := by
  rcases exec_bind_eq_error.mp h with h | ⟨_, _, _, h⟩
  · unfold generated at h
    rw [exec_bind_of_ok (exec_context s), exec_explain, hgenerators] at h
    rcases hmade : exec (f.generate Generator.builtin s.context.locale) s with ⟨g | v, u⟩
    · rw [hmade] at h
      cases h
      cases Field.unmade_of_generate hf hmade with
      | generator => exact .inl trivial
      | length hname htype hlength => exact .inr ⟨rfl, hauto, .length hname htype hlength⟩
    · rw [hmade] at h
      cases h
  · cases h

theorem fillOnUpdate_error (h : exec (fillOnUpdate equipment e f) s = (.error failure, t)) :
    Unfilled s.settings f failure := by
  unfold fillOnUpdate at h
  rw [exec_bind_of_ok (exec_context s)] at h
  split at h
  · cases h
  · split at h
    · exact fillGenerated_error hf hgenerators ‹_› h
    · exact .inl (isDocumented_of_reject h)

theorem fillOnCreate_error (h : exec (fillOnCreate equipment e f) s = (.error failure, t)) :
    Unfilled s.settings f failure := by
  unfold fillOnCreate at h
  split at h
  · cases h
  · split at h
    · cases h
    · split at h
      · exact fillGenerated_error hf hgenerators ‹_› h
      · split at h
        · cases h
        · exact .inl (isDocumented_of_reject h)

theorem fillField_error (h : exec (fillField equipment e mode f) s = (.error failure, t)) :
    Unfilled s.settings f failure := by
  unfold fillField at h
  rw [exec_bind_of_ok (exec_context s)] at h
  split at h
  · exact .inl (fillGiven_error hf h)
  · cases mode with
    | update => exact fillOnUpdate_error hf hgenerators h
    | create => exact fillOnCreate_error hf hgenerators h

end Filling

theorem fill_error (hfields : ∀ f ∈ e.fields, f.Known Generator.builtin)
    (hgenerators : equipment.generators = Generator.builtin)
    (h : exec (fill equipment e mode) s = (.error failure, t)) :
    failure.IsDocumented ∨ failure = .fault .wrongType ∧
      ∃ f ∈ e.fields, f.auto = true ∧ f.Unmade s.settings (.fault .wrongType) := by
  unfold fill at h
  rw [exec_bind_of_ok (exec_context s)] at h
  rcases exec_bind_eq_error.mp h with h | ⟨_, u, hwarn, h⟩
  · unfold warnOfUnknown at h
    dsimp only at h
    split at h <;> cases h
  · obtain ⟨before, f, after, v, hall, hbefore, hf⟩ := exec_forM_error_split h
    have hmem : f ∈ e.fields := by simp [hall]
    have hdraws : ∀ g ∈ equipment.generators, g.Draws := fun g hg =>
      Generator.draws_of_mem_builtin (hgenerators ▸ hg)
    have hsettings : v.settings = s.settings := by
      have hfilled : WritesOnly (fun _ => True) (before.forM (fillField equipment e mode)) :=
        .forM fun g _ => (writesOnly_fillField hdraws).mono fun _ _ => trivial
      have hwarned : WritesOnly (fun _ => True) (warnOfUnknown e s.context.raw) :=
        writesOnly_warnOfUnknown _
      exact (hfilled.writes hbefore).settings.trans (hwarned.writes hwarn).settings
    refine (fillField_error (hfields f hmem) hgenerators hf).imp_right ?_
    rintro ⟨rfl, hauto, hunmade⟩
    exact ⟨rfl, f, hmem, hauto, hsettings ▸ hunmade⟩

theorem address_error {raw : Record} {condition : Option Record}
    (h : e.address raw condition = .error failure) :
    failure.IsDocumented ∨ failure = .fault .missingKey ∧ condition = none ∧
      ∃ key, e.uniqueKeyIn? raw = some key ∧ ¬key.Nodup := by
  unfold Entity.address at h
  split at h
  · cases h
  · split at h
    · cases h
      exact .inl trivial
    · rename_i key hkey
      cases htaken : raw.takeKey key with
      | ok values =>
          rw [htaken] at h
          cases h
      | error fault =>
          rw [htaken] at h
          cases h
          obtain rfl := Record.takeKey_error htaken
          refine .inr ⟨rfl, rfl, key, hkey, fun hnodup => ?_⟩
          unfold Entity.uniqueKeyIn? at hkey
          have hgiven := List.find?_some hkey
          rw [List.all_eq_true] at hgiven
          obtain ⟨values, hvalues⟩ := Record.exists_takeKey hnodup fun name hname =>
            Record.has_of_isNull_getOrNull (by simpa using hgiven name hname)
          cases htaken.symm.trans hvalues

theorem loadFormer_error {condition : Record}
    (h : exec (loadFormer equipment e condition) s = (.error failure, t)) :
    failure.IsDocumented := by
  rw [exec_loadFormer] at h
  split at h
  · split at h
    · cases h
      exact trivial
    · cases h
  · cases h
    exact trivial

theorem identify_error (hsound : e.Sound) (hfeatures : equipment.features = Feature.builtin)
    (h : exec (identify equipment e r) s = (.error failure, t)) :
    failure.IsDocumented ∨ failure = .fault .missingKey ∧ s.context.condition = none ∧
      ∃ key, e.uniqueKeyIn? s.context.raw = some key ∧ ¬key.Nodup := by
  rw [exec_identify, exec_settleCondition] at h
  cases haddress : e.address s.context.raw s.context.condition with
  | error g =>
      rw [haddress] at h
      cases h
      exact address_error haddress
  | ok address =>
      obtain ⟨condition, raw⟩ := address
      rw [haddress] at h
      dsimp only at h
      split at h
      · rw [hfeatures] at h
        obtain ⟨needed, hneeded⟩ := needsFormer_ok hsound r raw
        rw [hneeded] at h
        cases needed with
        | false => cases h
        | true => exact .inl (loadFormer_error h)
      · cases h

theorem exists_field?_stampName (hsound : e.Sound) {options : Value}
    (htracks : e.Tracks options f) {state : String} (hstate : state ∈ f.values.getD []) :
    ∃ g, e.field? (Feature.StateTracking.stampName f.name state) = some g ∧
      g.generator = none ∧ BaseType.named? g.type = some .datetime := by
  cases hvalues : f.values with
  | none =>
      rw [hvalues] at hstate
      cases hstate
  | some states =>
      rw [hvalues] at hstate
      obtain ⟨g, hg, hname, hgenerator, htype⟩ := htracks.stamps states hvalues state hstate
      exact ⟨g, hname ▸ hsound.field?_eq hg, hgenerator, htype⟩

/-- Whether the time of a state cannot be written: the state is none of the values of its field,
and there is no field for its time, or one that gets no value. -/
structure Strays (e : Entity) (settings : Settings) (latest : Record) (options : Value) (f : Field)
    (failure : Failure) : Prop where
  tracks : e.Tracks options f
  given : (latest.getOrNull f.name).isNull = false
  unlisted : (latest.getOrNull f.name).plain ∉ f.values.getD []
  cause : failure = .fault .missingKey ∨ ∃ g ∈ e.fields, g.Unmade settings failure ∧
    g.name = Feature.StateTracking.stampName f.name (latest.getOrNull f.name).plain

theorem stamp_error (hsound : e.Sound) (hfields : ∀ f ∈ e.fields, f.Known Generator.builtin)
    {u : FeatureUse} (htracks : e.Tracks u.options f)
    (h : exec (Feature.StateTracking.stamp ⟨u, e⟩) s = (.error failure, t)) :
    t.context = s.context ∧ Strays e s.settings s.context.latest u.options f failure := by
  rw [Feature.StateTracking.exec_stamp] at h
  cases hstamped : Feature.StateTracking.stamped? u.options s.context with
  | none =>
      rw [hstamped] at h
      cases h
  | some name =>
      rw [hstamped] at h
      dsimp only at h
      obtain ⟨hstate, hname, _⟩ := Feature.StateTracking.of_stamped? hstamped
      rw [show (Feature.StateTracking.tracked u.options).plain = f.name from
        congrArg Value.plain htracks.tracked] at hstate hname
      cases hfield : e.field? name with
      | none =>
          rw [hfield] at h
          cases h
          refine ⟨rfl, htracks, hstate, fun hlisted => ?_, .inl rfl⟩
          obtain ⟨g, hg, -⟩ := exists_field?_stampName hsound htracks hlisted
          cases hfield.symm.trans (hname ▸ hg)
      | some g =>
          rw [hfield] at h
          obtain ⟨hg, hgname⟩ := Entity.mem_of_field? hfield
          rcases exec_bind_eq_error.mp h with h | ⟨_, _, _, h⟩
          · have hunmade := Field.unmade_of_generate (hfields g hg) h
            have hcontext := (g.draws_generate (fun g hg => Generator.draws_builtin g hg)
              s.context.locale).context_eq s
            rw [h] at hcontext
            refine ⟨hcontext, htracks, hstate, fun hlisted => ?_,
              .inr ⟨g, hg, hunmade, hgname.trans hname⟩⟩
            obtain ⟨g', hg', hgenerator, htype⟩ :=
              exists_field?_stampName hsound htracks hlisted
            cases hfield.symm.trans (hname ▸ hg')
            cases hunmade with
            | generator hnamed => cases hgenerator.symm.trans hnamed
            | length _ htext => cases htype.symm.trans htext
          · cases h

theorem isDocumented_of_checks {work : Facts → Run Unit} {facts : Facts}
    (hwork : work = Feature.Nullability.checkCreate ∨ work = Feature.Nullability.checkUpdate)
    (h : exec (work facts) s = (.error failure, t)) : failure.IsDocumented := by
  rcases hwork with rfl | rfl
  · unfold Feature.Nullability.checkCreate Feature.Nullability.allNull at h
    rw [exec_bind_of_ok (exec_context s)] at h
    split at h <;> cases h
    exact trivial
  · unfold Feature.Nullability.checkUpdate Feature.Nullability.allNull at h
    rw [exec_bind_of_ok (exec_context s)] at h
    split at h <;> cases h
    exact trivial

theorem runRules_error (hsound : e.Sound) (hfields : ∀ f ∈ e.fields, f.Known Generator.builtin)
    (htracks : ∀ u ∈ e.features, u.name = Feature.stateTracking.name → ∃ f, e.Tracks u.options f)
    {point : RulePoint}
    (h : exec (e.runRules (Feature.rulesOf Feature.builtin) point) s = (.error failure, t)) :
    failure.IsDocumented ∨ ∃ u ∈ e.features, u.name = Feature.stateTracking.name ∧
      ∃ f, Strays e s.settings t.context.latest u.options f failure := by
  obtain ⟨before, u, after, v, hall, hbefore, hu⟩ := exec_forM_error_split h
  have hmem : u ∈ e.features := by simp [hall]
  have hsettings : v.settings = s.settings :=
    ((e.writesOnly_forM_runRules hsound point fun u' hu' => by simp [hall, hu']).writes
      hbefore).settings
  rw [FeatureUse.exec_runRules (hsound.known u hmem)] at hu
  unfold Feature.work at hu
  cases point with
  | postDataValidation =>
      dsimp only at hu
      split at hu
      · rename_i hname
        obtain ⟨f, hf⟩ := htracks u hmem hname
        obtain ⟨hcontext, hstrays⟩ := stamp_error hsound hfields hf hu
        rw [← hcontext, hsettings] at hstrays
        exact .inr ⟨u, hmem, hname, f, hstrays⟩
      · cases hu
  | postCreateCheck =>
      dsimp only at hu
      split at hu
      · exact .inl (isDocumented_of_checks (.inl rfl) hu)
      · cases hu
  | postUpdateCheck =>
      dsimp only at hu
      split at hu
      · exact .inl (isDocumented_of_checks (.inr rfl) hu)
      · cases hu
  | beforeCreate => cases hu
  | beforeUpdate => cases hu

/-- Why a preparation that starts in a session fails with something that no message explains,
where the values that would have been written are `latest` in the end. -/
inductive Escapes (equipment : Equipment) (e : Entity) (r : Routine) (mode : Mode) (s : Session)
    (latest : Record) : Failure → Prop
  | key {key : List String} (hmode : mode = .update) (hcondition : s.context.condition = none)
      (hkey : e.uniqueKeyIn? s.context.raw = some key) (htwice : ¬key.Nodup) :
      Escapes equipment e r mode s latest (.fault .missingKey)
  | length {f : Field} (hf : f ∈ e.fields) (hauto : f.auto = true)
      (hunmade : f.Unmade s.settings (.fault .wrongType)) :
      Escapes equipment e r mode s latest (.fault .wrongType)
  | call {v w t u : Session} {o : Operation} {c : Call} {scope : Record} {values : List Value}
      {fault : Fault} (hbegins : Begins equipment e r mode s v)
      (hfill : exec (fill equipment e mode) (v.atPoint .perFieldFill) = (.ok (), w))
      (hstarts : r.Starts e (w.atPoint .applyRoutine) o t)
      (hreaches : o.Reaches e.name t c scope values u)
      (hfails : (exec (c.invoke e.name o.target scope values) u).1 = .error (.fault fault))
      (hescapes : Modifier.Escapes c.modifier.name (values ++ c.argsIn scope) fault) :
      Escapes equipment e r mode s latest (.fault fault)
  | state {u : FeatureUse} {f : Field} {failure : Failure} (hu : u ∈ e.features)
      (hname : u.name = Feature.stateTracking.name)
      (hstrays : Strays e s.settings latest u.options f failure) :
      Escapes equipment e r mode s latest failure

theorem Begins.settings {v : Session} (h : Begins equipment e r mode s v) :
    v.settings = s.settings := by
  cases mode with
  | create =>
      cases h
      rfl
  | update =>
      have hidentifies := @identifies_identify equipment e r
        ((s.begun .update).atPoint .resolveExisting)
      rw [show exec _ _ = _ from h] at hidentifies
      have hsettings := congrArg Session.settings hidentifies.session
      exact hsettings

theorem later_error {hasStore merging : Bool} (hsound : e.Sound)
    (hfields : ∀ f ∈ e.fields, f.Known Generator.builtin)
    (htracks : ∀ u ∈ e.features, u.name = Feature.stateTracking.name → ∃ f, e.Tracks u.options f)
    (hr : e.compile ModifierTable.builtin merging = .ok r) {v : Session}
    (hbegins : Begins { hasStore } e r mode s v)
    (h : exec (later { hasStore } e r mode) v = (.error failure, t)) :
    failure.IsDocumented ∨ Escapes { hasStore } e r mode s t.context.latest failure := by
  have hdraws := Entity.draws_of_compile (fun m hm => ModifierTable.draws_builtin hm) hr
  have hstray : ∀ {point : RulePoint} {a : Session}, a.settings = s.settings →
      exec (e.runRules (Feature.rulesOf Feature.builtin) point) a = (.error failure, t) →
      failure.IsDocumented ∨ Escapes { hasStore } e r mode s t.context.latest failure := by
    intro point a ha h
    refine (runRules_error hsound hfields htracks h).imp_right ?_
    rintro ⟨u, hu, hname, f, hstrays⟩
    exact .state hu hname (ha ▸ hstrays)
  unfold later at h
  rw [exec_bind_of_ok (exec_reach _ _), exec_bind_eq_error] at h
  rcases h with hfill | ⟨_, w, hfill, h⟩
  · refine (fill_error hfields rfl hfill).imp_right ?_
    rintro ⟨rfl, f, hf, hauto, hunmade⟩
    exact .length hf hauto (hbegins.settings ▸ hunmade)
  · have hw : w.settings = s.settings :=
      ((writesOnly_fill fun g hg => Generator.draws_of_mem_builtin hg).writes hfill).settings.trans
        hbegins.settings
    rw [exec_bind_of_ok (exec_reach _ _), exec_bind_eq_error] at h
    rcases h with happly | ⟨_, a, happly, h⟩
    · rcases Routine.exists_reaches_of_error (Entity.holds_of_compile hr) happly with
        hdocumented | ⟨o, t', c, scope, values, u, hstarts, hreaches, hfails⟩
      · exact .inl hdocumented
      · obtain ⟨g, hg, ho⟩ : ∃ g ∈ r.groups, o ∈ g.operations := by
          obtain ⟨before, g, after, done, rest, _, hgroups, _, _, _, hoperations, _⟩ := hstarts
          exact ⟨g, by simp [hgroups], by simp [hoperations]⟩
        have hmodifier := Entity.registered_of_compile hr g hg o ho c hreaches.mem_calls
        refine (Call.documented_or_escapes_of_invoke
          (ModifierTable.explained_builtin _ hmodifier) hfails).imp_right ?_
        rintro ⟨fault, rfl, hescapes⟩
        exact .call hbegins hfill hstarts hreaches (congrArg Prod.fst hfails) hescapes
    · have ha : a.settings = s.settings :=
        ((Routine.writesOnly_apply hdraws).writes happly).settings.trans hw
      rw [exec_bind_of_ok (exec_reach _ _), exec_bind_eq_error] at h
      rcases h with hrules | ⟨_, b, hrules, hlast⟩
      · exact hstray (show (a.atPoint .postValidation).settings = s.settings from ha) hrules
      · have hb : b.settings = s.settings :=
          ((e.writesOnly_runRules hsound _).writes hrules).settings.trans ha
        exact hstray hb hlast

theorem Escapes.isInterruption_eq {latest : Record}
    (h : Escapes equipment e r mode s latest failure) : failure.isInterruption = false := by
  cases h with
  | key | length | call => rfl
  | state hu hname hstrays =>
      rcases hstrays.cause with rfl | ⟨g, _, hunmade, _⟩
      · rfl
      · cases hunmade <;> rfl

section

variable {d : Declaration} {merging : Bool}
  (hlink : d.link ⟨Feature.builtin, Generator.builtin⟩ = .ok e)
  (hr : e.compile ModifierTable.builtin merging = .ok r) {hasStore : Bool}
include hlink hr

theorem steps_error
    (h : exec (steps { hasStore } e r mode) (s.begun mode) = (.error failure, t)) :
    failure.IsDocumented ∨ Escapes { hasStore } e r mode s t.context.latest failure := by
  have hsound := d.sound_of_link rfl hlink
  have hfields := d.known_of_link rfl hlink
  have htracks := fun u (hu : u ∈ e.features) hname => d.tracks_of_link rfl hlink hu hname
  cases mode with
  | create => exact later_error hsound hfields htracks hr rfl h
  | update =>
      rw [steps_update, exec_bind_of_ok (exec_reach _ _), exec_bind_eq_error] at h
      rcases h with hidentify | ⟨_, v, hidentify, hlater⟩
      · refine (identify_error hsound rfl hidentify).imp_right ?_
        rintro ⟨rfl, hcondition, key, hkey, htwice⟩
        exact .key rfl hcondition hkey htwice
      · exact later_error hsound hfields htracks hr hidentify hlater

/-- What is built in does not break off a preparation. -/
theorem isInterruption_of_steps
    (h : exec (steps { hasStore } e r mode) (s.begun mode) = (.error failure, t)) :
    failure.isInterruption = false :=
  (steps_error hlink hr h).elim Failure.IsDocumented.isInterruption_eq Escapes.isInterruption_eq

end

/-- A preparation for a linked entity either ends with the values that will be written, or it
ends as failed, with a rejection or a misuse, or else for one of the causes that no message
explains. -/
theorem documented_or_escapes_of_prepare {d : Declaration} {merging : Bool}
    (hlink : d.link ⟨Feature.builtin, Generator.builtin⟩ = .ok e)
    (hr : e.compile ModifierTable.builtin merging = .ok r) (hasStore : Bool) (mode : Mode)
    (s : Session) :
    (∃ t, exec (prepare { hasStore } e r mode) s = (.ok t.context.latest, t) ∧
      t.context.progress = .done) ∨
    ∃ failure t, exec (prepare { hasStore } e r mode) s = (.error failure, t) ∧
      t.context.progress = .failed ∧
      (failure.IsDocumented ∨ Escapes { hasStore } e r mode s t.context.latest failure) := by
  rw [exec_prepare]
  rcases hsteps : exec (steps { hasStore } e r mode) (s.begun mode) with ⟨failure | _, t⟩
  · have hfailed : t.failed failure = t.atPoint .failed := by
      rw [Session.failed, isInterruption_of_steps hlink hr hsteps]
      rfl
    have hcause := steps_error hlink hr hsteps
    exact .inr ⟨failure, t.atPoint .failed, congrArg (Prod.mk _) hfailed, rfl, hcause⟩
  · exact .inl ⟨t.atPoint .done, rfl, rfl⟩

def labelDeclaration : Declaration where
  name := "label"
  fields := [{ name := "price", modifiers := [{ kind := "Processor", name := "round" }] }]

def label : Entity where
  name := "label"
  fields := [
    { name := "price", displayName := "price", modifiers := [
      { kind := "Processor", name := "round" }] }]

theorem link_labelDeclaration :
    labelDeclaration.link ⟨Feature.builtin, Generator.builtin⟩ = .ok label := rfl

def newLabel : Session where
  settings := {}
  sources := .still
  context := { raw := [("price", .text "abc")] }

theorem noDecimal_of_label : (match label.compile ModifierTable.builtin true with
    | .ok r =>
        match (exec (prepare {} label r .create) newLabel).1 with
        | .error (.fault fault) => decide (fault = .noDecimal)
        | _ => false
    | .error _ => false) = true := by
  decide +kernel

/-- Rounding a text that is no number is not told as a rejection of the price. -/
theorem label_escapes : ∃ r t, label.compile ModifierTable.builtin true = .ok r ∧
    exec (prepare {} label r .create) newLabel = (.error (.fault .noDecimal), t) ∧
    t.context.progress = .failed ∧ ¬(Failure.fault .noDecimal).IsDocumented ∧
    Escapes {} label r .create newLabel t.context.latest (.fault .noDecimal) := by
  obtain ⟨r, hr⟩ : ∃ r, label.compile ModifierTable.builtin true = .ok r := ⟨_, rfl⟩
  have hfails := noDecimal_of_label
  rw [hr] at hfails
  dsimp only at hfails
  rcases documented_or_escapes_of_prepare link_labelDeclaration hr true .create newLabel with
    ⟨t, hprepare, _⟩ | ⟨failure, t, hprepare, hprogress, hcause⟩
  · rw [hprepare] at hfails
    cases hfails
  · rw [hprepare] at hfails
    split at hfails
    · rename_i fault hfault
      cases hfault
      obtain rfl := of_decide_eq_true hfails
      exact ⟨r, t, hr, hprepare, hprogress, id, hcause.resolve_left id⟩
    · cases hfails

end Preparation

end FieldPipeline
