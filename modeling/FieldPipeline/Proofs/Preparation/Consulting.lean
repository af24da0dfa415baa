import FieldPipeline.Proofs.Preparation.Ignoring

/-!
Where an update for which the record before it is not known comes upon a value that only this
record has.  An update that never does so takes the same course when the record is known.
-/

namespace FieldPipeline

open Run Expression

/-- Whether a feature comes upon a value that only the record before an update has: a time that is
not to be written again, or the values that keep a list of fields from being null. -/
def FeatureUse.Consults (former : Record) (c : Context) (u : FeatureUse) : RulePoint → Prop
  | .postDataValidation => u.name = Feature.stateTracking.name ∧
      Feature.StateTracking.isReversible u.options = false ∧
      ∃ name, Feature.StateTracking.stamped? u.options c = some name ∧
        (former.getOrNull name).isNull = false
  | .postUpdateCheck => u.name = Feature.atLeastOneNotNull.name ∧
      (Feature.Nullability.names u.options).all (Feature.Nullability.isNullAfter c) = false ∧
      (Feature.Nullability.names u.options).all
        (Feature.Nullability.isNullAfter { c with existing := some former }) = true
  | _ => False

namespace Feature

variable {facts : Facts} {former : Record} {s : Session}

theorem StateTracking.stamped?_loaded (hnone : s.context.existing = none) {options : Value}
    (h : isReversible options = true ∨ ∀ name, stamped? options s.context = some name →
      (former.getOrNull name).isNull = true) :
    stamped? options (s.loaded former).context = stamped? options s.context := by
  have hlatest : (s.loaded former).context.latest = s.context.latest := rfl
  have hformer : ∀ name, (s.loaded former).context.former name = former.getOrNull name :=
    fun _ => rfl
  have hnull : ∀ name, (s.context.former name).isNull = true := by
    intro name
    rw [Context.former_of_existing_eq_none hnone]
    rfl
  unfold stamped? at h ⊢
  dsimp only at h ⊢
  rw [hlatest, hformer]
  by_cases hstate : (s.context.latest.getOrNull (tracked options).plain).isNull = true
  · rw [if_pos hstate, if_pos hstate]
  · rw [if_neg hstate] at h ⊢
    rw [if_neg hstate]
    simp only [hnull, Bool.or_true, if_true] at h ⊢
    rcases h with hreversible | hwritten
    · simp only [hreversible, Bool.true_or, if_true]
    · simp only [hwritten _ rfl, Bool.or_true, if_true]

theorem StateTracking.ignores_stamp (hnone : s.context.existing = none)
    (h : isReversible facts.feature.options = true ∨
      ∀ name, stamped? facts.feature.options s.context = some name →
        (former.getOrNull name).isNull = true) :
    Ignores former (stamp facts) s := by
  unfold Ignores
  rw [exec_stamp, exec_stamp, stamped?_loaded hnone h]
  cases stamped? facts.feature.options s.context with
  | none => rfl
  | some name =>
      dsimp only
      cases facts.entity.field? name with
      | none => rfl
      | some f =>
          refine Ignores.bind (.ofDraws ?_) fun v t _ => .setLatest _ _
          exact f.draws_generate (fun g hg => Generator.draws_builtin g hg) _

theorem Nullability.all_isNullAfter_loaded (former : Record) (hnone : s.context.existing = none)
    (names : List Value) (h : names.all (isNullAfter s.context) = false →
      names.all (isNullAfter (s.loaded former).context) = false) :
    names.all (isNullAfter (s.loaded former).context) = names.all (isNullAfter s.context) := by
  cases hall : names.all (isNullAfter s.context) with
  | false => exact h hall
  | true =>
      -- without the record, a field that is null was given null
      rw [List.all_eq_true] at hall ⊢
      intro name hname
      have hnull := hall name hname
      have hlatest : (s.loaded former).context.latest = s.context.latest := rfl
      unfold isNullAfter at hnull ⊢
      rw [hnone] at hnull
      rw [hlatest]
      cases hvalue : valueUnder? name s.context.latest with
      | some v =>
          rw [hvalue] at hnull
          exact hnull
      | none =>
          rw [hvalue] at hnull
          cases hnull

theorem ignores_work {u : FeatureUse} {e : Entity} {point : RulePoint}
    (hnone : s.context.existing = none) (h : ¬u.Consults former s.context point) :
    Ignores former (work u.name point ⟨u, e⟩) s := by
  unfold work
  cases point with
  | postDataValidation =>
      dsimp only
      split
      · rename_i hname
        refine StateTracking.ignores_stamp hnone ?_
        by_contra hnot
        rw [not_or] at hnot
        obtain ⟨hreversible, hformer⟩ := hnot
        push Not at hformer
        obtain ⟨name, hstamped, hvalue⟩ := hformer
        exact h ⟨hname, by simpa using hreversible, name, hstamped, by simpa using hvalue⟩
      · exact .pure _
  | postUpdateCheck =>
      dsimp only
      split
      · rename_i hname
        refine .bind_context ?_ ?_
        · have hall := Nullability.all_isNullAfter_loaded former hnone
            (Nullability.names u.options) fun hnot => by
              by_contra hne
              exact h ⟨hname, hnot, Bool.not_eq_false _ ▸ hne⟩
          dsimp only
          rw [hall]
        · split
          · exact .reject _ _
          · exact .pure _
      · exact .pure _
  | postCreateCheck =>
      dsimp only
      split
      · refine .bind_context rfl ?_
        split
        · exact .reject _ _
        · exact .pure _
      · exact .pure _
  | _ => exact .pure _

end Feature

theorem Entity.ignores_runRules {e : Entity} (h : e.Sound) {point : RulePoint} {former : Record}
    {s : Session} (hnone : s.context.existing = none)
    (hconsults : ∀ done u rest t, e.features = done ++ u :: rest →
      exec (done.forM (FeatureUse.runRules (Feature.rulesOf Feature.builtin) e point)) s =
        (.ok (), t) → ¬u.Consults former t.context point) :
    Ignores former (e.runRules (Feature.rulesOf Feature.builtin) point) s := by
  refine .forM fun done u rest t hl hdone => ?_
  have hmem : ∀ v ∈ done ++ [u], v ∈ e.features := by
    intro v hv
    rw [hl]
    simp only [List.mem_append, List.mem_cons] at hv ⊢
    tauto
  have hwrites := (e.writesOnly_forM_runRules h point fun v hv =>
    hmem v (List.mem_append_left [u] hv)).writes hdone
  refine .of_exec_eq (fun s => FeatureUse.exec_runRules (h.known u (hmem u (by simp))) e point s) ?_
  exact Feature.ignores_work (hwrites.existing.trans hnone) (hconsults done u rest t hl hdone)

structure Routine.Regular (r : Routine) : Prop where
  calls : ∀ g ∈ r.groups, ∀ o ∈ g.operations, ∀ c ∈ o.calls, c.Regular o.kind
  activators : ∀ g ∈ r.groups, g.requireTarget = false → ∀ o ∈ g.operations, o.kind = .activator

theorem Routine.Regular.draws {r : Routine} (h : r.Regular) : r.Draws :=
  fun g hg o ho c hc => (h.calls g hg o ho c hc).draws

theorem Entity.regular_of_compile {merging : Bool} {e : Entity} {r : Routine}
    (hfields : e.fieldNames.Nodup) (h : e.compile ModifierTable.builtin merging = .ok r) :
    r.Regular := by
  obtain ⟨ts, sorted, -, -, hordered, rfl⟩ :=
    exists_ordered ModifierTable.notMem_tilde_builtin hfields h
  constructor
  · intro g hg o ho c hc
    obtain ⟨t, ht, rfl, hkind⟩ := exists_token_of_mem_calls hg ho hc
    obtain ⟨target, position, u, hof⟩ := hordered.isOfUse t ht
    exact ⟨hof.kind_eq.symm.trans hkind, ModifierTable.draws_builtin hof.registered,
      ModifierTable.readsFormulas_builtin _ hof.registered, hof.literal⟩
  · intro g hg hrequire o ho
    have hkind := (Group.holds_of_mem_ofOrder hg ho).requiresTarget_eq
    rw [hrequire] at hkind
    unfold Operation.requiresTarget at hkind
    simpa using hkind

namespace Preparation

variable {equipment : Equipment} {e : Entity} {r : Routine} {former : Record} {s : Session}

def filling (equipment : Equipment) (e : Entity) : Run Unit := do
  reach .perFieldFill
  fill equipment e .update
  reach .applyRoutine

def applying (equipment : Equipment) (e : Entity) (r : Routine) : Run Unit := do
  filling equipment e
  r.apply e
  reach .postValidation

def leadingTo (equipment : Equipment) (e : Entity) (r : Routine) : RulePoint → Run Unit
  | .postUpdateCheck => do
    applying equipment e r
    e.runRules equipment.rules .postDataValidation
  | _ => applying equipment e r

theorem later_update (equipment : Equipment) (e : Entity) (r : Routine) :
    later equipment e r .update = (do
      leadingTo equipment e r .postUpdateCheck
      e.runRules equipment.rules .postUpdateCheck) := by
  unfold later leadingTo applying filling
  simp only [bind_assoc]
  rfl

/-- Whether an update for which the record before it is not known comes upon a value that only
this record has. -/
inductive Consults (equipment : Equipment) (e : Entity) (r : Routine) (former : Record)
    (s : Session) : Prop where
  | fills {f : Field} : f ∈ e.fields → f.Consults former s.context.raw →
      Consults equipment e r former s
  | applies {done rest : List Group} {g : Group} {t : Session} :
      r.groups = done ++ g :: rest →
      exec (do filling equipment e; done.forM (Group.apply e)) s = (.ok (), t) →
      g.Consults e former t.context → Consults equipment e r former s
  | checks {point : RulePoint} {done rest : List FeatureUse} {u : FeatureUse} {t : Session} :
      e.features = done ++ u :: rest →
      exec (do
        leadingTo equipment e r point
        done.forM (FeatureUse.runRules equipment.rules e point)) s = (.ok (), t) →
      u.Consults former t.context point → Consults equipment e r former s

theorem ignores_reach (p : Progress) : Ignores former (reach p) s := rfl

theorem ignores_filling (h : e.Sound) (hgenerators : ∀ g ∈ equipment.generators, g.Draws)
    (hnone : s.context.existing = none) (htouches : touchesWriteOnce e s.context.raw = false)
    (hconsults : ¬Consults equipment e r former s) : Ignores former (filling equipment e) s := by
  refine .bind (ignores_reach _) fun _ t hreach => ?_
  rw [exec_reach] at hreach
  cases hreach
  refine .bind (ignores_fill h hgenerators hnone htouches ?_) fun _ _ _ => ignores_reach _
  exact fun f hf hf' => hconsults (.fills hf hf')

theorem writesOnly_filling (hgenerators : ∀ g ∈ equipment.generators, g.Draws) :
    WritesOnly (fun _ => True) (filling equipment e) :=
  .bind (writesOnly_reach _) fun _ =>
    .bind ((writesOnly_fill hgenerators).mono fun _ _ => trivial) fun _ => writesOnly_reach _

theorem ignores_applying (h : e.Sound) (hregular : r.Regular)
    (hgenerators : ∀ g ∈ equipment.generators, g.Draws)
    (hmode : s.context.mode = some .update) (hnone : s.context.existing = none)
    (hnodup : s.context.latest.names.Nodup) (htouches : touchesWriteOnce e s.context.raw = false)
    (hconsults : ¬Consults equipment e r former s) : Ignores former (applying equipment e r) s := by
  refine .bind (ignores_filling h hgenerators hnone htouches hconsults) fun _ t ht => ?_
  have hfilled := (writesOnly_filling hgenerators).writes ht
  refine .bind (.forM fun done g rest u hgroups hdone => ?_) fun _ _ _ => ignores_reach _
  have happlied := hregular.draws.writes_before hgroups hdone
  have hwrites := hfilled.trans (happlied.mono fun _ _ => trivial)
  have hg : g ∈ r.groups := by simp [hgroups]
  refine Group.ignores_apply (hregular.calls g hg) (hregular.activators g hg)
    (hwrites.mode.trans hmode) (hwrites.existing.trans hnone) (hwrites.nodup hnodup)
    fun hg => hconsults (.applies hgroups ?_ hg)
  rw [exec_bind_of_ok ht]
  exact hdone

theorem writesOnly_applying (hgenerators : ∀ g ∈ equipment.generators, g.Draws)
    (hregular : r.Regular) : WritesOnly (fun _ => True) (applying equipment e r) :=
  .bind (writesOnly_filling hgenerators) fun _ =>
    .bind ((Routine.writesOnly_apply hregular.draws).mono fun _ _ => trivial) fun _ =>
      writesOnly_reach _

/-- An update that does not consult the record does the same when it is known. -/
theorem ignores_later (h : e.Sound) (hregular : r.Regular)
    (hrules : equipment.rules = Feature.rulesOf Feature.builtin)
    (hgenerators : ∀ g ∈ equipment.generators, g.Draws)
    (hmode : s.context.mode = some .update) (hnone : s.context.existing = none)
    (hnodup : s.context.latest.names.Nodup)
    (htouches : touchesWriteOnce e s.context.raw = false)
    (hconsults : ¬Consults equipment e r former s) :
    Ignores former (later equipment e r .update) s := by
  have hchecks : ∀ point t, exec (leadingTo equipment e r point) s = (.ok (), t) →
      t.context.existing = none → Ignores former (e.runRules equipment.rules point) t := by
    intro point t ht hnone'
    rw [hrules]
    refine e.ignores_runRules h hnone' fun done u rest u' hl hdone hu => ?_
    refine hconsults (.checks hl ?_ hu)
    rw [exec_bind_of_ok ht, hrules]
    exact hdone
  have happlying := ignores_applying h hregular hgenerators hmode hnone hnodup htouches hconsults
  have happlied := writesOnly_applying (e := e) hgenerators hregular
  rw [later_update]
  refine .bind (.bind happlying fun _ t ht => ?_) fun _ t ht => ?_
  · exact hchecks .postDataValidation t ht ((happlied.writes ht).existing.trans hnone)
  · refine hchecks .postUpdateCheck t ht ?_
    have hstamped : WritesOnly (fun _ => True) (leadingTo equipment e r .postUpdateCheck) := by
      unfold leadingTo
      rw [hrules]
      exact happlied.bind fun _ => e.writesOnly_runRules h _
    exact (hstamped.writes ht).existing.trans hnone

end Preparation

end FieldPipeline
