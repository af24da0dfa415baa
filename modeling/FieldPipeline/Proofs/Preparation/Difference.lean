import FieldPipeline.Proofs.Preparation.Consulting
import FieldPipeline.Proofs.Preparation.Rules
import FieldPipeline.Proofs.Routine.Keeping

/-!
What an update leaves behind when it comes upon a value that only the record before it has, and
goes through: a field that it has overwritten, or fields of which none has a value any more.
-/

namespace FieldPipeline

open Run

theorem Session.has_write (s : Session) (name : String) (v : Value) :
    (s.write name v).context.latest.has name = true := by
  change (s.context.latest.put name v).has name = true
  simp [Record.has_put]

namespace Preparation

variable {equipment : Equipment} {e : Entity} {former : Record} {s t : Session}

theorem has_of_fill {f : Field} (hgenerators : ∀ g ∈ equipment.generators, g.Draws)
    (hnone : s.context.existing = none) (hf : f ∈ e.fields)
    (hconsults : f.Consults former s.context.raw)
    (h : exec (fill equipment e .update) s = (.ok (), t)) :
    t.context.latest.has f.name = true := by
  obtain ⟨u, v, hu, hfill, hv⟩ := exists_turn_of_fill hgenerators hf h
  refine hv.grows f.name ?_
  obtain ⟨_, hforce, hstore, hraw, _⟩ := hconsults
  have hget : u.context.raw.get? f.name = none := by
    rw [Record.get?_eq_none_iff, hu.raw]
    exact hraw
  unfold fillField at hfill
  rw [exec_bind_of_ok (exec_context u), hget] at hfill
  dsimp only at hfill
  unfold fillOnUpdate at hfill
  rw [exec_bind_of_ok (exec_context u), isSettled_of_none (hu.existing.trans hnone), hforce,
    hstore] at hfill
  simp only [Bool.not_true, Bool.or_self, Bool.false_eq_true, if_false] at hfill
  split at hfill
  · unfold fillGenerated at hfill
    rw [exec_bind_eq_ok] at hfill
    obtain ⟨value, w, _, hset⟩ := hfill
    rw [exec_setLatest] at hset
    cases hset
    exact w.has_write f.name value
  · cases hfill

end Preparation

namespace Operation

variable {entity target : String} {calls : List Call} {s t : Session}

theorem not_applies_of_derive? {scope : Record} (h : exec (derive? entity target scope calls) s =
    (.ok none, t)) : ∀ c ∈ calls, c.applies entity target scope = .ok false := by
  induction calls with
  | nil => simp
  | cons c calls ih =>
      rw [derive?, exec_bind, exec_ofExcept] at h
      cases happlies : c.applies entity target scope with
      | error f =>
          rw [happlies] at h
          cases h
      | ok applies =>
          rw [happlies] at h
          cases applies with
          | true =>
              simp only [if_true] at h
              rw [exec_bind_eq_ok] at h
              obtain ⟨_, _, _, h⟩ := h
              cases h
          | false =>
              intro c' hc'
              rcases List.mem_cons.mp hc' with rfl | hc'
              · exact happlies
              · exact ih h c' hc'

theorem has_of_runCalls (h : exec (runCalls entity target .activator calls) s = (.ok (), t))
    (hidle : ¬∀ c ∈ calls, c.applies entity target s.context.scope = .ok false) :
    t.context.latest.has target = true := by
  unfold runCalls at h
  rw [exec_bind_of_ok (exec_context s)] at h
  dsimp only at h
  rw [exec_bind_eq_ok] at h
  obtain ⟨derived, u, hderive, h⟩ := h
  cases derived with
  | none =>
      refine absurd (fun c hc => ?_) hidle
      exact not_applies_of_derive? hderive c (by simpa using hc)
  | some v =>
      rw [exec_setLatest] at h
      cases h
      exact u.has_write target v

end Operation

namespace Group

variable {e : Entity} {g : Group} {s t : Session}

theorem missing_of_apply (hverdict : g.verdict e s.context = .run)
    (h : exec (g.apply e) s = (.ok (), t)) : g.missing s.context = [] := by
  cases hmissing : g.missing s.context with
  | nil => rfl
  | cons _ _ =>
      unfold apply at h
      rw [exec_bind_of_ok (exec_context s), hverdict, hmissing] at h
      cases h

theorem has_of_mem_requiredFields (hverdict : g.verdict e s.context = .run)
    (hnone : s.context.existing = none) (h : exec (g.apply e) s = (.ok (), t)) {name : String}
    (hname : name ∈ g.requiredFields) : s.context.latest.has name = true := by
  have hthere := missing_eq_nil_iff.mp (missing_of_apply hverdict h) name hname
  unfold Context.lookUp? at hthere
  rw [hnone] at hthere
  unfold Record.has
  cases hget : s.context.latest.get? name with
  | some v => rfl
  | none =>
      rw [hget] at hthere
      cases hthere

theorem has_of_apply (hactivators : ∀ o ∈ g.operations, o.kind = .activator)
    (hcalls : ∀ o ∈ g.operations, ∀ c ∈ o.calls, c.modifier.Draws)
    (hverdict : g.verdict e s.context = .run) (h : exec (g.apply e) s = (.ok (), t))
    (hidle : ¬g.Idle e s.context) : t.context.latest.has g.target = true := by
  rw [exec_apply_of_run hverdict (missing_of_apply hverdict h)] at h
  unfold Idle at hidle
  generalize g.operations = operations at hactivators hcalls hidle h
  induction operations with
  | nil => exact absurd (by simp) hidle
  | cons o operations ih =>
      rw [exec_forM_cons, exec_bind_eq_ok] at h
      obtain ⟨_, u, ho, hrest⟩ := h
      have hgrows := (Operation.writesOnly_forM e.name g.target fun o' ho' =>
        hcalls o' (List.mem_cons_of_mem o ho')).writes hrest
      rw [hactivators o (by simp)] at ho
      by_cases hfirst : ∀ c ∈ o.calls, c.applies e.name g.target s.context.scope = .ok false
      · rw [Operation.exec_runCalls_of_not_applies hfirst] at ho
        cases ho
        refine ih (fun o ho => hactivators o (by simp [ho]))
          (fun o ho => hcalls o (by simp [ho])) (fun hothers => hidle ?_) hrest
        intro o' ho'
        rcases List.mem_cons.mp ho' with rfl | ho'
        · exact hfirst
        · exact hothers o' ho'
      · exact hgrows.grows _ (Operation.has_of_runCalls ho hfirst)

theorem has_of_consults {former : Record}
    (hactivators : g.requireTarget = false → ∀ o ∈ g.operations, o.kind = .activator)
    (hcalls : ∀ o ∈ g.operations, ∀ c ∈ o.calls, c.modifier.Draws)
    (hreads : ∀ o ∈ g.operations, ∀ c ∈ o.calls, ∀ name ∈ c.reads, name ∈ g.requiredFields)
    (hnone : s.context.existing = none) (hconsults : g.Consults e former s.context)
    (h : exec (g.apply e) s = (.ok (), t)) :
    t.context.latest.has g.target = true ∧ e.Settled (some former) g.target := by
  obtain ⟨hverdict, hconsults⟩ := hconsults
  rcases hconsults with ⟨hrequire, hsettled, hidle⟩ | ⟨name, _, hlacks, hname⟩
  · refine ⟨has_of_apply (hactivators hrequire) hcalls hverdict h fun hall => ?_, hsettled⟩
    exact hidle ⟨missing_of_apply hverdict h, hall⟩
  · exfalso
    have hrequired : name ∈ g.requiredFields := by
      rcases hname with hrequired | ⟨o, ho, c, hc, hread⟩
      · exact hrequired
      · exact hreads o ho c hc name hread
    rw [has_of_mem_requiredFields hverdict hnone h hrequired] at hlacks
    cases hlacks

end Group

namespace Feature

theorem StateTracking.has_of_stamp {facts : Facts} {s t : Session} {name : String}
    (hstamped : stamped? facts.feature.options s.context = some name)
    (h : exec (stamp facts) s = (.ok (), t)) :
    t.context.latest.has name = true ∧ ∃ f, facts.entity.field? name = some f := by
  rw [exec_stamp, hstamped] at h
  dsimp only at h
  cases hfield : facts.entity.field? name with
  | none =>
      rw [hfield] at h
      cases h
  | some f =>
      rw [hfield] at h
      dsimp only at h
      rw [exec_bind_eq_ok] at h
      obtain ⟨v, u, _, h⟩ := h
      rw [exec_setLatest] at h
      cases h
      exact ⟨u.has_write name v, f, rfl⟩

end Feature

/-- Whether the calls of a routine read what their groups need and nothing else, and the time of a
state is written once just when the states are not reversible. -/
structure Entity.Orderly (e : Entity) (r : Routine) : Prop where
  reads : ∀ g ∈ r.groups, ∀ o ∈ g.operations, ∀ c ∈ o.calls, ∀ name ∈ c.reads,
    name ∈ g.requiredFields
  stamps : ∀ u ∈ e.features, u.name = Feature.stateTracking.name → ∀ state f,
    e.field? (Feature.StateTracking.stampName (Feature.StateTracking.tracked u.options).plain
      state) = some f → f.writeOnce = !Feature.StateTracking.isReversible u.options

theorem Entity.Orderly.not_restamps {e : Entity} {r : Routine} (h : e.Orderly r) {name : String}
    {existing : Option Record} (hsettled : e.Settled existing name) : ¬e.Restamps name := by
  rintro ⟨u, hu, hname, hreversible, state, rfl⟩
  obtain ⟨honce, _⟩ := hsettled
  cases hfield : e.field? (Feature.StateTracking.stampName
      (Feature.StateTracking.tracked u.options).plain state) with
  | none =>
      rw [hfield] at honce
      cases honce
  | some f =>
      rw [hfield] at honce
      have hwritten := h.stamps u hu hname state f hfield
      rw [hreversible] at hwritten
      change f.writeOnce = true at honce
      rw [honce] at hwritten
      cases hwritten

namespace Preparation

variable {equipment : Equipment} {e : Entity} {r : Routine} {former : Record} {s t : Session}

structure Stages (equipment : Equipment) (e : Entity) (r : Routine) (s s₁ s₂ t : Session) :
    Prop where
  filling : exec (filling equipment e) s = (.ok (), s₁)
  applying : exec (r.apply e) s₁ = (.ok (), s₂)
  stamping : exec (e.runRules equipment.rules .postDataValidation) (s₂.atPoint .postValidation) =
    (.ok (), t)
  checked : ∀ u ∈ e.features, u.name = Feature.atLeastOneNotNull.name →
    (Feature.Nullability.names u.options).all (Feature.Nullability.isNullAfter t.context) = false

theorem exists_stages (h : e.Sound) (hrules : equipment.rules = Feature.rulesOf Feature.builtin)
    (hexec : exec (later equipment e r .update) s = (.ok (), t)) :
    ∃ s₁ s₂, Stages equipment e r s s₁ s₂ t := by
  obtain ⟨filled, s₂, t', hfill, happly, hstamps, hchecks⟩ := exec_later_ok hexec
  rw [hrules] at hchecks
  obtain ⟨rfl, hchecked⟩ := e.exec_lastChecks_ok h .update (fun _ => id) hchecks
  refine ⟨filled.atPoint .applyRoutine, s₂, ?_, happly, hstamps, hchecked⟩
  unfold Preparation.filling
  rw [exec_bind_of_ok (exec_reach _ _), exec_bind_of_ok hfill, exec_reach]

namespace Stages

variable {s₁ s₂ : Session}

theorem exec_applying (hstages : Stages equipment e r s s₁ s₂ t) :
    exec (Preparation.applying equipment e r) s = (.ok (), s₂.atPoint .postValidation) := by
  unfold Preparation.applying
  rw [exec_bind_of_ok hstages.filling, exec_bind_of_ok hstages.applying, exec_reach]

theorem writes_stamping (h : e.Sound) (hrules : equipment.rules = Feature.rulesOf Feature.builtin)
    (hstages : Stages equipment e r s s₁ s₂ t) :
    Session.Writes (fun _ => True) (s₂.atPoint .postValidation) t := by
  have hstamping := hstages.stamping
  rw [hrules] at hstamping
  exact (e.writesOnly_runRules h .postDataValidation).writes hstamping

theorem overwrites_of_fills (h : e.Sound) (hregular : r.Regular)
    (hrules : equipment.rules = Feature.rulesOf Feature.builtin)
    (hgenerators : ∀ g ∈ equipment.generators, g.Draws) (hnone : s.context.existing = none)
    (hstages : Stages equipment e r s s₁ s₂ t) {f : Field} (hf : f ∈ e.fields)
    (hconsults : f.Consults former s.context.raw) :
    ∃ name, t.context.latest.has name = true ∧ e.Settled (some former) name := by
  have hfilling := hstages.filling
  unfold Preparation.filling at hfilling
  simp only [exec_bind_eq_ok, exec_reach] at hfilling
  obtain ⟨_, u, hreach, _, v, hfill, hreach'⟩ := hfilling
  cases hreach
  cases hreach'
  have hhas : v.context.latest.has f.name = true :=
    has_of_fill (s := s.atPoint .perFieldFill) hgenerators hnone hf hconsults hfill
  have happlied := (Routine.writesOnly_apply hregular.draws).writes hstages.applying
  refine ⟨f.name, (hstages.writes_stamping h hrules).grows _ (happlied.grows _ hhas), ?_⟩
  obtain ⟨honce, _, _, _, hvalue⟩ := hconsults
  refine ⟨?_, former, rfl, hvalue⟩
  rw [h.field?_eq hf]
  simpa using honce

theorem overwrites_of_applies (h : e.Sound) (hregular : r.Regular) (horderly : e.Orderly r)
    (hrules : equipment.rules = Feature.rulesOf Feature.builtin)
    (hgenerators : ∀ g ∈ equipment.generators, g.Draws) (hnone : s.context.existing = none)
    (hstages : Stages equipment e r s s₁ s₂ t) {done rest : List Group} {g : Group} {u : Session}
    (hgroups : r.groups = done ++ g :: rest)
    (hdone : exec (do Preparation.filling equipment e; done.forM (Group.apply e)) s = (.ok (), u))
    (hconsults : g.Consults e former u.context) :
    ∃ name, t.context.latest.has name = true ∧ e.Settled (some former) name := by
  have hg : g ∈ r.groups := by simp [hgroups]
  have happlying := hstages.applying
  unfold Routine.apply at happlying
  rw [hgroups] at happlying
  obtain ⟨u', v, hdone', hgroup, hrest⟩ := exec_forM_ok_split happlying
  rw [exec_bind_of_ok hstages.filling, hdone'] at hdone
  cases hdone
  have hfilled := (writesOnly_filling hgenerators).writes hstages.filling
  have hbefore := hregular.draws.writes_before hgroups hdone'
  have hafter := (Routine.writesOnly_groups fun g' hg' =>
    hregular.draws g' (by simp [hgroups, hg'])).writes hrest
  obtain ⟨hhas, hsettled⟩ := Group.has_of_consults (hregular.activators g hg)
    (hregular.draws g hg) (horderly.reads g hg)
    (hbefore.existing.trans (hfilled.existing.trans hnone)) hconsults hgroup
  exact ⟨g.target, (hstages.writes_stamping h hrules).grows _ (hafter.grows _ hhas), hsettled⟩

theorem overwrites_of_stamps (h : e.Sound) (horderly : e.Orderly r)
    (hrules : equipment.rules = Feature.rulesOf Feature.builtin)
    (hstages : Stages equipment e r s s₁ s₂ t) {done rest : List FeatureUse} {u : FeatureUse}
    {v : Session} (hfeatures : e.features = done ++ u :: rest)
    (hdone : exec (do
      leadingTo equipment e r .postDataValidation
      done.forM (FeatureUse.runRules equipment.rules e .postDataValidation)) s = (.ok (), v))
    (hconsults : u.Consults former v.context .postDataValidation) :
    ∃ name, t.context.latest.has name = true ∧ e.Settled (some former) name := by
  have hu : u ∈ e.features := by simp [hfeatures]
  obtain ⟨hname, hirreversible, stamp, hstamp, hvalue⟩ := hconsults
  have hstamping := hstages.stamping
  unfold Entity.runRules at hstamping
  rw [hfeatures] at hstamping
  obtain ⟨v', w, hdone', hwork, hrest⟩ := exec_forM_ok_split hstamping
  unfold leadingTo at hdone
  dsimp only at hdone
  rw [exec_bind_of_ok hstages.exec_applying, hdone'] at hdone
  cases hdone
  rw [hrules] at hwork hrest
  rw [FeatureUse.exec_runRules (h.known u hu)] at hwork
  unfold Feature.work at hwork
  dsimp only at hwork
  rw [if_pos hname] at hwork
  obtain ⟨hhas, f, hf⟩ := @Feature.StateTracking.has_of_stamp ⟨u, e⟩ _ _ _ hstamp hwork
  have hafter := (e.writesOnly_forM_runRules h .postDataValidation
    fun u' hu' => by simp [hfeatures, hu']).writes hrest
  refine ⟨stamp, hafter.grows _ hhas, ?_, former, rfl, hvalue⟩
  obtain ⟨_, rfl, _⟩ := Feature.StateTracking.of_stamped? hstamp
  have honce := horderly.stamps u hu hname _ f hf
  rw [hirreversible] at honce
  rw [hf]
  simpa using honce

theorem allNull_of_checks (h : e.Sound)
    (hrules : equipment.rules = Feature.rulesOf Feature.builtin)
    (hstages : Stages equipment e r s s₁ s₂ t) {done rest : List FeatureUse} {u : FeatureUse}
    {v : Session} (hfeatures : e.features = done ++ u :: rest)
    (hdone : exec (do
      leadingTo equipment e r .postUpdateCheck
      done.forM (FeatureUse.runRules equipment.rules e .postUpdateCheck)) s = (.ok (), v))
    (hconsults : u.Consults former v.context .postUpdateCheck) :
    u.name = Feature.atLeastOneNotNull.name ∧ (Feature.Nullability.names u.options).all
      (Feature.Nullability.isNullAfter (t.loaded former).context) = true := by
  obtain ⟨hname, _, hall⟩ := hconsults
  have hleading : exec (leadingTo equipment e r .postUpdateCheck) s = (.ok (), t) := by
    unfold leadingTo
    dsimp only
    rw [exec_bind_of_ok hstages.exec_applying]
    exact hstages.stamping
  rw [exec_bind_of_ok hleading, hrules] at hdone
  obtain ⟨rfl, _⟩ := e.exec_lastChecks_ok h .update
    (fun u' hu' => by simp [hfeatures, hu']) hdone
  exact ⟨hname, hall⟩

end Stages

/-- An update that consults the record without knowing it, and goes through, overwrites a field
that has its last value in the record or leaves nothing but nulls in a list of fields. -/
theorem overwrites_of_consults (h : e.Sound) (hregular : r.Regular) (horderly : e.Orderly r)
    (hrules : equipment.rules = Feature.rulesOf Feature.builtin)
    (hgenerators : ∀ g ∈ equipment.generators, g.Draws) (hnone : s.context.existing = none)
    (hconsults : Consults equipment e r former s)
    (hexec : exec (later equipment e r .update) s = (.ok (), t)) :
    (∃ name, t.context.latest.has name = true ∧ e.Settled (some former) name) ∨
      ∃ u ∈ e.features, u.name = Feature.atLeastOneNotNull.name ∧
        (Feature.Nullability.names u.options).all
          (Feature.Nullability.isNullAfter (t.loaded former).context) = true := by
  obtain ⟨s₁, s₂, hstages⟩ := exists_stages h hrules hexec
  cases hconsults with
  | fills hf hconsults =>
      exact .inl (hstages.overwrites_of_fills h hregular hrules hgenerators hnone hf hconsults)
  | applies hgroups hdone hconsults =>
      exact .inl (hstages.overwrites_of_applies h hregular horderly hrules hgenerators hnone
        hgroups hdone hconsults)
  | @checks point _ _ u _ hfeatures hdone hconsults =>
      cases point with
      | postDataValidation =>
          exact .inl (hstages.overwrites_of_stamps h horderly hrules hfeatures hdone hconsults)
      | postUpdateCheck =>
          exact .inr ⟨u, by simp [hfeatures],
            hstages.allNull_of_checks h hrules hfeatures hdone hconsults⟩
      | _ => cases hconsults

end Preparation

end FieldPipeline
