import FieldPipeline.Preparation.Basic
import FieldPipeline.Proofs.Drawing
import FieldPipeline.Proofs.Linking.Build
import FieldPipeline.Proofs.Preparation.Course
import FieldPipeline.Proofs.Rule.Chain
import FieldPipeline.Proofs.Writing

/-!
The rules of the built-in features: at three points one of them has something to do, and of these
only the stamping of states writes.  The last checks of a preparation change nothing, and when they
succeed, each list of fields of which one must have a value has one that does not count as null.
-/

namespace FieldPipeline

open Run

theorem Feature.rulesOf_builtin : rulesOf builtin = [
    ("at_least_one_not_null.post_create_check", [.before false Nullability.checkCreate]),
    ("at_least_one_not_null.post_update_check", [.before false Nullability.checkUpdate]),
    ("state_tracking.post_data_validation", [.before true StateTracking.stamp])] := rfl

def Feature.work (name : String) : RulePoint → Facts → Run Unit
  | .postDataValidation =>
    if name = stateTracking.name then StateTracking.stamp else fun _ => pure ()
  | .postCreateCheck =>
    if name = atLeastOneNotNull.name then Nullability.checkCreate else fun _ => pure ()
  | .postUpdateCheck =>
    if name = atLeastOneNotNull.name then Nullability.checkUpdate else fun _ => pure ()
  | .beforeCreate | .beforeUpdate => fun _ => pure ()

namespace FeatureUse

theorem exec_runRules {u : FeatureUse} (hu : ∃ f ∈ Feature.builtin, f.name = u.name) (e : Entity)
    (point : RulePoint) (s : Session) :
    exec (u.runRules (Feature.rulesOf Feature.builtin) e point) s =
      exec (Feature.work u.name point ⟨u, e⟩) s := by
  obtain ⟨name, options⟩ := u
  obtain ⟨f, hf, hname⟩ := hu
  dsimp only at hname
  subst hname
  have hperform : ∀ isAsync work route, exec (do
      let _ ← Chain.run [.before isAsync work] route ⟨⟨f.name, options⟩, e⟩) s =
        exec (work ⟨⟨f.name, options⟩, e⟩) s := by
    intro isAsync work route
    rw [exec_bind, Chain.exec_run_before, exec_bind]
    rcases exec (work ⟨⟨f.name, options⟩, e⟩) s with ⟨_ | _, t⟩ <;> rfl
  rw [Feature.rulesOf_builtin]
  simp only [Feature.builtin, List.mem_cons, List.not_mem_nil, or_false] at hf
  rcases hf with rfl | rfl | rfl | rfl | rfl | rfl | rfl
  · cases point <;> rfl
  · cases point <;> rfl
  · cases point <;> rfl
  · cases point <;> rfl
  · cases point with
    | postCreateCheck => exact hperform _ _ _
    | postUpdateCheck => exact hperform _ _ _
    | _ => rfl
  · cases point with
    | postDataValidation => exact hperform _ _ _
    | _ => rfl
  · cases point <;> rfl

end FeatureUse

namespace Feature

namespace StateTracking

def stamped? (options : Value) (c : Context) : Option String :=
  let field := (tracked options).plain
  let state := c.latest.getOrNull field
  let name := stampName field state.plain
  if state.isNull then none
  else if isReversible options || (c.former name).isNull then some name
  else none

theorem of_stamped? {options : Value} {c : Context} {name : String}
    (h : stamped? options c = some name) :
    (c.latest.getOrNull (tracked options).plain).isNull = false ∧
      name = stampName (tracked options).plain
        (c.latest.getOrNull (tracked options).plain).plain ∧
      (isReversible options = true ∨ (c.former name).isNull = true) := by
  unfold stamped? at h
  dsimp only at h
  split at h
  · cases h
  · rename_i hstate
    split at h
    · rename_i hwanted
      cases h
      exact ⟨by simpa using hstate, rfl, Bool.or_eq_true_iff.mp hwanted⟩
    · cases h

theorem exec_stamp (facts : Facts) (s : Session) : exec (stamp facts) s =
    match stamped? facts.feature.options s.context with
    | none => (.ok (), s)
    | some name =>
      match facts.entity.field? name with
      | none => (.error (.fault .missingKey), s)
      | some f => exec (do
          let v ← f.generate Generator.builtin s.context.locale
          Run.setLatest name v) s := by
  unfold stamp stamped?
  dsimp only
  rw [exec_bind_of_ok (exec_context s)]
  split
  · rfl
  · split
    · dsimp only
      cases facts.entity.field? _ <;> rfl
    · rfl

theorem writes_stamp (facts : Facts) (s : Session) :
    Session.Writes (fun name => stamped? facts.feature.options s.context = some name) s
      (exec (stamp facts) s).2 := by
  rw [exec_stamp]
  cases h : stamped? facts.feature.options s.context with
  | none => exact .refl s
  | some name =>
      dsimp only
      cases facts.entity.field? name with
      | none => exact .refl s
      | some f =>
          refine WritesOnly.bind (.ofDraws ?_) (fun v => .setLatest ?_ v) s
          · exact f.draws_generate (fun g hg => Generator.draws_builtin g hg) _
          · rfl

end StateTracking

theorem exec_checkCreate_snd (facts : Facts) (s : Session) :
    (exec (Nullability.checkCreate facts) s).2 = s := by
  unfold Nullability.checkCreate Nullability.allNull
  rw [exec_bind_of_ok (exec_context s)]
  split <;> rfl

theorem exec_checkUpdate_snd (facts : Facts) (s : Session) :
    (exec (Nullability.checkUpdate facts) s).2 = s := by
  unfold Nullability.checkUpdate Nullability.allNull
  rw [exec_bind_of_ok (exec_context s)]
  split <;> rfl

theorem exec_work_snd {point : RulePoint} (hpoint : point ≠ .postDataValidation) (name : String)
    (facts : Facts) (s : Session) : (exec (work name point facts) s).2 = s := by
  unfold work
  cases point with
  | postDataValidation => exact absurd rfl hpoint
  | postCreateCheck =>
      dsimp only
      split
      · exact exec_checkCreate_snd facts s
      · rfl
  | postUpdateCheck =>
      dsimp only
      split
      · exact exec_checkUpdate_snd facts s
      · rfl
  | beforeCreate | beforeUpdate => rfl

end Feature

/-! ### The last checks -/

namespace Feature

namespace Nullability

def isNullIn (c : Context) : Mode → Value → Bool
  | .create => isNullAt c.latest
  | .update => isNullAfter c

def check : Mode → Facts → Run Unit
  | .create => checkCreate
  | .update => checkUpdate

theorem exec_check_ok {mode : Mode} {facts : Facts} {s t : Session}
    (h : exec (check mode facts) s = (.ok (), t)) :
    t = s ∧ (names facts.feature.options).all (isNullIn s.context mode) = false := by
  have hexec : exec (check mode facts) s =
      if (names facts.feature.options).all (isNullIn s.context mode) then exec (allNull facts) s
      else (.ok (), s) := by
    cases mode with
    | create =>
        unfold check checkCreate
        rw [exec_bind_of_ok (exec_context s)]
        exact apply_ite (exec · s) _ _ _
    | update =>
        unfold check checkUpdate
        rw [exec_bind_of_ok (exec_context s)]
        exact apply_ite (exec · s) _ _ _
  rw [hexec] at h
  split at h
  · cases h
  · rename_i hnull
    cases h
    exact ⟨rfl, by simpa using hnull⟩

end Nullability

theorem work_lastCheck (name : String) (mode : Mode) (facts : Facts) :
    work name (Preparation.lastCheck mode) facts =
      if name = atLeastOneNotNull.name then Nullability.check mode facts else pure () := by
  cases mode <;> exact ite_apply _ _ _ _

end Feature

theorem Entity.exec_lastChecks_ok {e : Entity} (h : e.Sound) (mode : Mode) {us : List FeatureUse}
    (hus : ∀ u ∈ us, u ∈ e.features) {s t : Session}
    (hexec : exec (us.forM (FeatureUse.runRules (Feature.rulesOf Feature.builtin) e
      (Preparation.lastCheck mode))) s = (.ok (), t)) :
    t = s ∧ ∀ u ∈ us, u.name = Feature.atLeastOneNotNull.name →
      (Feature.Nullability.names u.options).all (Feature.Nullability.isNullIn s.context mode) =
        false := by
  induction us generalizing s with
  | nil =>
      cases hexec
      simp
  | cons u us ih =>
      rw [exec_forM_cons, exec_bind_eq_ok] at hexec
      obtain ⟨_, s₁, hfirst, hrest⟩ := hexec
      rw [FeatureUse.exec_runRules (h.known u (hus u (by simp))), Feature.work_lastCheck] at hfirst
      obtain ⟨hsame, hchecked⟩ : s₁ = s ∧ (u.name = Feature.atLeastOneNotNull.name →
          (Feature.Nullability.names u.options).all
            (Feature.Nullability.isNullIn s.context mode) = false) := by
        split at hfirst
        · obtain ⟨hsame, hnull⟩ := Feature.Nullability.exec_check_ok hfirst
          exact ⟨hsame, fun _ => hnull⟩
        · rename_i hname
          cases hfirst
          exact ⟨rfl, fun h => absurd h hname⟩
      subst hsame
      obtain ⟨rfl, hothers⟩ := ih (fun v hv => hus v (by simp [hv])) hrest
      refine ⟨rfl, fun v hv => ?_⟩
      rcases List.mem_cons.mp hv with rfl | hv
      · exact hchecked
      · exact hothers v hv

theorem Preparation.checked_of_prepare {equipment : Equipment} {e : Entity} {r : Routine}
    {mode : Mode} (h : e.Sound) (hrules : equipment.rules = Feature.rulesOf Feature.builtin)
    {s t : Session} {values : Record}
    (hprepare : exec (prepare equipment e r mode) s = (.ok values, t)) :
    t.context.latest = values ∧ ∀ u ∈ e.features, u.name = Feature.atLeastOneNotNull.name →
      (Feature.Nullability.names u.options).all (Feature.Nullability.isNullIn t.context mode) =
        false := by
  obtain ⟨_, u, _, hlater, rfl, rfl⟩ := exec_prepare_ok hprepare
  obtain ⟨_, _, checked, _, _, _, hlast⟩ := exec_later_ok hlater
  rw [hrules] at hlast
  obtain ⟨rfl, hchecked⟩ := e.exec_lastChecks_ok h mode (fun _ => id) hlast
  refine ⟨rfl, fun v hv hname => ?_⟩
  rw [← hchecked v hv hname]
  cases mode <;> rfl

end FieldPipeline
