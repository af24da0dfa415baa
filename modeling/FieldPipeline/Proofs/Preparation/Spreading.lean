import FieldPipeline.Proofs.Preparation.Course
import FieldPipeline.Proofs.Preparation.Rules

/-!
Which fields an update may write.  It starts with the fields that are given or have to be
generated; a field that is derived from one of these may follow, and the times of states last.  A
field that is written once and has a value takes no part in this.
-/

namespace FieldPipeline

open Run

def Entity.Settled (e : Entity) (existing : Option Record) (name : String) : Prop :=
  (e.field? name).any (·.writeOnce) = true ∧
    ∃ former, existing = some former ∧ (former.getOrNull name).isNull = false

def Field.Filled (raw : Record) (f : Field) : Prop :=
  raw.has f.name = true ∨ f.forceUpdate = true ∧ f.auto = true ∧ f.updateByStore = false

inductive Entity.Spreads (e : Entity) (r : Routine) (raw : Record) (existing : Option Record) :
    String → Prop where
  | filled {f : Field} : f ∈ e.fields → f.Filled raw → ¬e.Settled existing f.name →
      Spreads e r raw existing f.name
  | derived {g : Group} {name : String} : g ∈ r.groups → g.requireTarget = false →
      name ∈ g.requiredFields → Spreads e r raw existing name → ¬e.Settled existing g.target →
      Spreads e r raw existing g.target

open Feature.StateTracking in
inductive Entity.Touches (e : Entity) (r : Routine) (raw : Record) (existing : Option Record) :
    String → Prop where
  | spreads {name : String} : e.Spreads r raw existing name → Touches e r raw existing name
  | stamped {u : FeatureUse} {state name : String} : u ∈ e.features →
      u.name = Feature.stateTracking.name → Touches e r raw existing (tracked u.options).plain →
      name = stampName (tracked u.options).plain state →
      isReversible u.options = true ∨
        (∀ former, existing = some former → (former.getOrNull name).isNull = true) →
      Touches e r raw existing name

variable {e : Entity} {r : Routine} {equipment : Equipment}

namespace Session.Writes

variable {s t : Session} {written : String → Prop} {name : String}

theorem has_or (h : Session.Writes written s t) (hname : t.context.latest.has name = true) :
    s.context.latest.has name = true ∨ written name := by
  by_cases hwritten : written name
  · exact .inr hwritten
  · unfold Record.has at hname ⊢
    rw [h.latest name hwritten] at hname
    exact .inl hname

end Session.Writes

theorem Entity.settled_iff (e : Entity) (c : Context) (name : String) :
    e.Settled c.existing name ↔
      (e.field? name).any (·.writeOnce) = true ∧ (c.former name).isNull = false := by
  unfold Settled Context.former
  cases c.existing with
  | none => simp [Value.isNull]
  | some former => simp

namespace Preparation

theorem isSettled_iff (h : e.Sound) {f : Field} (hf : f ∈ e.fields) (c : Context) :
    isSettled c f = true ↔ e.Settled c.existing f.name := by
  rw [Entity.settled_iff, h.field?_eq hf]
  simp [isSettled]

theorem exec_fillField_snd_of_not (h : e.Sound) {f : Field} (hf : f ∈ e.fields) {s : Session}
    (hfills : ¬(f.Filled s.context.raw ∧ ¬e.Settled s.context.existing f.name)) :
    (exec (fillField equipment e .update f) s).2 = s := by
  unfold fillField
  rw [exec_bind_of_ok (exec_context s)]
  rw [← isSettled_iff h hf] at hfills
  cases hraw : s.context.raw.get? f.name with
  | some v =>
      have hgiven : f.Filled s.context.raw := by
        refine .inl ?_
        unfold Record.has
        rw [hraw]
        rfl
      have hsettled : isSettled s.context f = true := by
        by_contra hnot
        exact hfills ⟨hgiven, hnot⟩
      dsimp only
      unfold fillGiven
      rw [exec_bind_of_ok (exec_context s), hsettled]
      cases f.readOnly <;> rfl
  | none =>
      dsimp only
      unfold fillOnUpdate
      rw [exec_bind_of_ok (exec_context s)]
      cases hsettled : isSettled s.context f with
      | true => rfl
      | false =>
          have hnot : ¬f.Filled s.context.raw := fun hfilled => hfills ⟨hfilled, by simp [hsettled]⟩
          unfold Field.Filled at hnot
          cases hforce : f.forceUpdate with
          | false => rfl
          | true =>
              cases hstore : f.updateByStore with
              | true => rfl
              | false =>
                  cases hauto : f.auto with
                  | false => rfl
                  | true => exact absurd (.inr ⟨hforce, hauto, hstore⟩) hnot

theorem writes_fillField (h : e.Sound) (hdraws : ∀ g ∈ equipment.generators, g.Draws) {f : Field}
    (hf : f ∈ e.fields) (s : Session) :
    Session.Writes (fun name => name = f.name ∧ f.Filled s.context.raw ∧
        ¬e.Settled s.context.existing f.name) s
      (exec (fillField equipment e .update f) s).2 := by
  by_cases hfills : f.Filled s.context.raw ∧ ¬e.Settled s.context.existing f.name
  · exact (writesOnly_fillField hdraws s).mono fun name hname => ⟨hname, hfills⟩
  · rw [exec_fillField_snd_of_not h hf hfills]
    exact .refl s

theorem writes_fill (h : e.Sound) (hdraws : ∀ g ∈ equipment.generators, g.Draws) (s : Session) :
    Session.Writes (fun name => ∃ f ∈ e.fields, name = f.name ∧ f.Filled s.context.raw ∧
      ¬e.Settled s.context.existing f.name) s (exec (fill equipment e .update) s).2 := by
  unfold fill
  rw [exec_bind_of_ok (exec_context s)]
  refine exec_bind_induct (P := Session.Writes _ s) (writesOnly_warnOfUnknown _ s) ?_
  intro _ t _ ht
  refine exec_forM_induct (P := Session.Writes _ s) ?_ ht
  intro f hf u hu
  refine hu.trans ((writes_fillField h hdraws hf u).mono ?_)
  rintro name ⟨rfl, hfilled, hsettled⟩
  exact ⟨f, hf, rfl, hu.raw ▸ hfilled, hu.existing ▸ hsettled⟩

end Preparation

def Group.Derives (e : Entity) (c : Context) (g : Group) : Prop :=
  g.requireTarget = false ∧ (∃ name ∈ g.requiredFields, c.latest.has name = true) ∧
    ¬e.Settled c.existing g.target

theorem Group.has_or_derives_of_run {g : Group} {c : Context} (hmode : c.mode = some .update)
    (hrun : g.verdict e c = .run) : c.latest.has g.target = true ∨ g.Derives e c := by
  cases hhas : c.latest.has g.target with
  | true => exact .inl rfl
  | false =>
      refine .inr ?_
      unfold verdict at hrun
      rw [hhas, (Record.get?_eq_none_iff _ _).mpr hhas, hmode] at hrun
      cases hrequire : g.requireTarget with
      | true =>
          rw [hrequire] at hrun
          simp only [if_true, decide_true, Bool.true_and] at hrun
          split at hrun <;> cases hrun
      | false =>
          rw [hrequire] at hrun
          simp only [Bool.false_eq_true, if_false, decide_true, if_true] at hrun
          split at hrun
          · cases hrun
          · rename_i hsettled
            split at hrun
            · rename_i hchanged
              refine ⟨hrequire, by simpa using hchanged, fun h => hsettled ?_⟩
              obtain ⟨honce, hformer⟩ := (e.settled_iff c g.target).mp h
              simp [honce, hformer]
            · cases hrun

theorem Group.writes_apply {g : Group}
    (hcalls : ∀ o ∈ g.operations, ∀ c ∈ o.calls, c.modifier.Draws) {s : Session}
    (hmode : s.context.mode = some .update) :
    Session.Writes (fun name => name = g.target ∧
        (s.context.latest.has g.target = true ∨ g.Derives e s.context)) s
      (exec (g.apply e) s).2 := by
  cases hverdict : g.verdict e s.context with
  | run =>
      exact (writesOnly_apply hcalls s).mono fun name hname =>
        ⟨hname, g.has_or_derives_of_run hmode hverdict⟩
  | skip =>
      unfold apply
      rw [exec_bind_of_ok (exec_context s), hverdict]
      exact .refl s
  | demandTarget =>
      unfold apply
      rw [exec_bind_of_ok (exec_context s), hverdict]
      exact .refl s

theorem Group.spreads_apply {g : Group} (hg : g ∈ r.groups)
    (hcalls : ∀ o ∈ g.operations, ∀ c ∈ o.calls, c.modifier.Draws) {raw : Record} {s : Session}
    (hmode : s.context.mode = some .update)
    (hspreads : ∀ name, s.context.latest.has name = true →
      e.Spreads r raw s.context.existing name)
    (name : String) (hname : (exec (g.apply e) s).2.context.latest.has name = true) :
    e.Spreads r raw s.context.existing name := by
  rcases (writes_apply (e := e) hcalls hmode).has_or hname with
    hname | ⟨rfl, hname | ⟨hrequire, ⟨other, hother, hhas⟩, hsettled⟩⟩
  · exact hspreads name hname
  · exact hspreads _ hname
  · exact .derived hg hrequire hother (hspreads other hhas) hsettled

theorem Routine.spreads_apply (hdraws : r.Draws) {raw : Record} {s : Session}
    (hmode : s.context.mode = some .update)
    (hspreads : ∀ name, s.context.latest.has name = true →
      e.Spreads r raw s.context.existing name)
    (name : String) (hname : (exec (r.apply e) s).2.context.latest.has name = true) :
    e.Spreads r raw s.context.existing name := by
  have hkeeps := exec_forM_induct (f := Group.apply e) (l := r.groups) (s := s)
    (P := fun t => t.context.mode = some .update ∧ t.context.existing = s.context.existing ∧
      ∀ name, t.context.latest.has name = true → e.Spreads r raw s.context.existing name) ?_
    ⟨hmode, rfl, hspreads⟩
  · exact hkeeps.2.2 name hname
  · rintro g hg t ⟨hmode, hexisting, hspreads⟩
    have hwrites := Group.writesOnly_apply (e := e) (hdraws g hg) t
    refine ⟨hwrites.mode.trans hmode, hwrites.existing.trans hexisting, ?_⟩
    rw [← hexisting] at hspreads ⊢
    exact Group.spreads_apply hg (hdraws g hg) hmode hspreads

theorem Feature.writes_work (name : String) (point : RulePoint) (facts : Facts) (s : Session) :
    Session.Writes (fun field => name = stateTracking.name ∧
        StateTracking.stamped? facts.feature.options s.context = some field) s
      (exec (work name point facts) s).2 := by
  by_cases hpoint : point = .postDataValidation
  · subst hpoint
    unfold work
    dsimp only
    split
    · rename_i hname
      exact (StateTracking.writes_stamp facts s).mono fun field hfield => ⟨hname, hfield⟩
    · exact .refl s
  · rw [exec_work_snd hpoint]
    exact .refl s

theorem Entity.Touches.of_stamped {u : FeatureUse} (hu : u ∈ e.features)
    (hname : u.name = Feature.stateTracking.name) {raw : Record} {c : Context}
    (htouches : ∀ name, c.latest.has name = true → e.Touches r raw c.existing name)
    {name : String} (h : Feature.StateTracking.stamped? u.options c = some name) :
    e.Touches r raw c.existing name := by
  obtain ⟨hstate, rfl, hwanted⟩ := Feature.StateTracking.of_stamped? h
  refine .stamped hu hname (htouches _ (Record.has_of_isNull_getOrNull hstate)) rfl ?_
  rcases hwanted with hreversible | hformer
  · exact .inl hreversible
  · refine .inr fun former hexisting => ?_
    unfold Context.former at hformer
    rw [hexisting] at hformer
    exact hformer

theorem Entity.touches_runRules (h : e.Sound) (point : RulePoint) {raw : Record} {s : Session}
    (htouches : ∀ name, s.context.latest.has name = true →
      e.Touches r raw s.context.existing name)
    (name : String) (hname : (exec (e.runRules (Feature.rulesOf Feature.builtin) point)
      s).2.context.latest.has name = true) :
    e.Touches r raw s.context.existing name := by
  have hkeeps := exec_forM_induct (l := e.features) (s := s)
    (f := FeatureUse.runRules (Feature.rulesOf Feature.builtin) e point)
    (P := fun t => t.context.existing = s.context.existing ∧
      ∀ name, t.context.latest.has name = true → e.Touches r raw s.context.existing name) ?_
    ⟨rfl, htouches⟩
  · exact hkeeps.2 name hname
  · rintro u hu t ⟨hexisting, htouches⟩
    rw [FeatureUse.exec_runRules (h.known u hu)]
    have hwrites := Feature.writes_work u.name point ⟨u, e⟩ t
    refine ⟨hwrites.existing.trans hexisting, fun name hname => ?_⟩
    rw [← hexisting] at htouches ⊢
    rcases hwrites.has_or hname with hname | ⟨htracking, hstamped⟩
    · exact htouches name hname
    · exact .of_stamped hu htracking htouches hstamped

theorem Entity.writesOnly_forM_runRules (h : e.Sound) (point : RulePoint) {us : List FeatureUse}
    (hus : ∀ u ∈ us, u ∈ e.features) : WritesOnly (fun _ => True)
      (us.forM (FeatureUse.runRules (Feature.rulesOf Feature.builtin) e point)) := by
  refine .forM fun u hu s => ?_
  rw [FeatureUse.exec_runRules (h.known u (hus u hu))]
  exact (Feature.writes_work u.name point ⟨u, e⟩ s).mono fun _ _ => trivial

theorem Entity.writesOnly_runRules (h : e.Sound) (point : RulePoint) :
    WritesOnly (fun _ => True) (e.runRules (Feature.rulesOf Feature.builtin) point) :=
  e.writesOnly_forM_runRules h point fun _ => id

namespace Preparation

theorem spreads_of_apply (h : e.Sound) (hgenerators : ∀ g ∈ equipment.generators, g.Draws)
    (hdraws : r.Draws) {s filled applied : Session} (hmode : s.context.mode = some .update)
    (hempty : s.context.latest = [])
    (hfill : exec (fill equipment e .update) (s.atPoint .perFieldFill) = (.ok (), filled))
    (happly : exec (r.apply e) (filled.atPoint .applyRoutine) = (.ok (), applied)) :
    applied.context.existing = s.context.existing ∧
      ∀ name, applied.context.latest.has name = true →
        e.Spreads r s.context.raw s.context.existing name := by
  have hw₁ := writes_fill h hgenerators (s.atPoint .perFieldFill)
  rw [hfill] at hw₁
  have hw₂ := Routine.writesOnly_apply (e := e) hdraws (filled.atPoint .applyRoutine)
  rw [happly] at hw₂
  have hexisting : filled.context.existing = s.context.existing := hw₁.existing
  have hspreads : ∀ name, filled.context.latest.has name = true →
      e.Spreads r s.context.raw s.context.existing name := by
    intro name hname
    rcases hw₁.has_or hname with hbefore | ⟨f, hf, rfl, hfilled, hsettled⟩
    · change s.context.latest.has name = true at hbefore
      rw [hempty] at hbefore
      cases hbefore
    · exact .filled hf hfilled hsettled
  refine ⟨hw₂.existing.trans hexisting, fun name hname => ?_⟩
  have hafter := Routine.spreads_apply (e := e)
    (s := filled.atPoint .applyRoutine) hdraws (hw₁.mode.trans hmode)
    (hexisting.symm ▸ hspreads) name
  rw [happly] at hafter
  exact hexisting ▸ hafter hname

theorem touches_later (h : e.Sound) (hrules : equipment.rules = Feature.rulesOf Feature.builtin)
    (hgenerators : ∀ g ∈ equipment.generators, g.Draws) (hdraws : r.Draws) {s : Session}
    (hmode : s.context.mode = some .update) (hempty : s.context.latest = [])
    {t : Session} (hlater : exec (later equipment e r .update) s = (.ok (), t))
    (name : String) (hname : t.context.latest.has name = true) :
    e.Touches r s.context.raw s.context.existing name := by
  obtain ⟨s₁, s₂, s₃, hfill, happly, hrules₁, hrules₂⟩ := exec_later_ok hlater
  rw [hrules] at hrules₁ hrules₂
  obtain ⟨hexisting₂, hspreads₂⟩ :=
    spreads_of_apply h hgenerators hdraws hmode hempty hfill happly
  have hw₃ := e.writesOnly_runRules h .postDataValidation (s₂.atPoint .postValidation)
  rw [hrules₁] at hw₃
  have hexisting₃ : s₃.context.existing = s.context.existing := hw₃.existing.trans hexisting₂
  have htouches₃ : ∀ name, s₃.context.latest.has name = true →
      e.Touches r s.context.raw s.context.existing name := by
    have htouches₂ : ∀ name, s₂.context.latest.has name = true →
        e.Touches r s.context.raw s.context.existing name :=
      fun name hname => .spreads (hspreads₂ name hname)
    intro name hname
    have hafter := e.touches_runRules (r := r) h .postDataValidation
      (s := s₂.atPoint .postValidation) (hexisting₂.symm ▸ htouches₂) name
    rw [hrules₁] at hafter
    exact hexisting₂ ▸ hafter hname
  have hafter := e.touches_runRules (r := r) h (lastCheck .update) (s := s₃)
    (hexisting₃.symm ▸ htouches₃) name
  rw [hrules₂] at hafter
  exact hexisting₃ ▸ hafter hname

end Preparation

/-- Whether a field can be the time of a state that is reversible, which is written again each
time the state is reached. -/
def Entity.Restamps (e : Entity) (name : String) : Prop :=
  ∃ u ∈ e.features, u.name = Feature.stateTracking.name ∧
    Feature.StateTracking.isReversible u.options = true ∧
    ∃ state, name = Feature.StateTracking.stampName
      (Feature.StateTracking.tracked u.options).plain state

/-- What is settled is touched at most as the time of a reversible state. -/
theorem Entity.restamps_of_touches {e : Entity} {r : Routine} {raw : Record}
    {existing : Option Record} {name : String} (hsettled : e.Settled existing name)
    (h : e.Touches r raw existing name) : e.Restamps name := by
  cases h with
  | spreads hspreads =>
      cases hspreads with
      | filled _ _ hnot => exact absurd hsettled hnot
      | derived _ _ _ _ hnot => exact absurd hsettled hnot
  | stamped hu hname _ hstamp hwanted =>
      rcases hwanted with hreversible | hnull
      · exact ⟨_, hu, hname, hreversible, _, hstamp⟩
      · obtain ⟨_, former, hexisting, hvalue⟩ := hsettled
        rw [hnull former hexisting] at hvalue
        cases hvalue

theorem Entity.not_settled_none (e : Entity) (name : String) : ¬e.Settled none name := by
  rintro ⟨_, _, hnone, _⟩
  cases hnone

end FieldPipeline
