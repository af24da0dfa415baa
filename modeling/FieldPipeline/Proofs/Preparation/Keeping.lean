import FieldPipeline.Proofs.Keeping
import FieldPipeline.Proofs.Preparation.Updating

/-!
What a preparation leaves alone: a part of the session that neither its generators and modifiers
nor the work of its rules change, and that shows no values.
-/

namespace FieldPipeline

open Run

variable {γ : Type} {view : Session → γ}

def Modifier.Keeps (view : Session → γ) (m : Modifier) : Prop :=
  ∀ args scope, Run.Keeps view (m.apply args scope)

def Generator.Keeps (view : Session → γ) (g : Generator) : Prop :=
  ∀ f locale, Run.Keeps view (g.generate f locale)

theorem Run.Draws.keeps {α : Type} {x : Run α} (hx : x.Draws) (hview : Session.Apart view) :
    Run.Keeps view x := by
  obtain ⟨draw, hdraw⟩ := hx
  intro s
  rw [hdraw]
  exact hview.output s _ s.log s.warnings

theorem Field.keeps_generate (hview : Session.Apart view) {generators : List Generator}
    (hgenerators : ∀ g ∈ generators, g.Keeps view) (f : Field) (locale : Value) :
    Run.Keeps view (f.generate generators locale) := by
  unfold Field.generate
  split
  · split
    · rename_i g hfind
      exact hgenerators g (List.mem_of_find?_eq_some hfind) f locale
    · exact .fail _
  · split
    · exact (draws_generateOf f _).keeps hview
    · exact .fail _

theorem Feature.keeps_rulesOf_builtin (hview : Session.Apart view) :
    ∀ r ∈ rulesOf builtin, ∀ a ∈ r.2, a.Keeps view := by
  have hstamp : ∀ facts, (StateTracking.stamp facts).Keeps view := by
    intro facts
    have hwrites : ∀ f : Field, ∀ locale name, Run.Keeps view (do
        let v ← f.generate Generator.builtin locale
        Run.setLatest name v) := fun f locale name =>
      .bind ((f.draws_generate (fun g hg => Generator.draws_builtin g hg) locale).keeps hview)
        fun v => .setLatest hview name v
    intro s
    rw [StateTracking.exec_stamp]
    cases StateTracking.stamped? facts.feature.options s.context with
    | none => rfl
    | some name =>
        dsimp only
        cases facts.entity.field? name with
        | none => rfl
        | some f => exact hwrites f _ _ s
  rw [rulesOf_builtin]
  simp only [List.forall_mem_cons, List.not_mem_nil, false_implies, implies_true, and_true]
  exact ⟨Action.keeps_before false fun facts => .of_snd (exec_checkCreate_snd facts),
    Action.keeps_before false fun facts => .of_snd (exec_checkUpdate_snd facts),
    Action.keeps_before true hstamp⟩

namespace Preparation

variable {equipment : Equipment} {e : Entity} {mode : Mode} {f : Field}
  (hview : Session.Apart view)
include hview

section

variable (hgenerators : ∀ g ∈ equipment.generators, g.Keeps view)
include hgenerators

theorem keeps_fillGenerated : Run.Keeps view (fillGenerated equipment e f) :=
  .bind (.bind_context fun c => .explain (f.keeps_generate hview hgenerators c.locale) _)
    fun v => .setLatest hview f.name v

omit hgenerators in
theorem keeps_fillGiven (v : Value) : Run.Keeps view (fillGiven e mode f v) := by
  refine .bind_context fun c => ?_
  split
  · exact .reject _ _
  · split
    · exact .reject _ _
    · split
      · split
        · exact .setLatest hview _ _
        · exact .reject _ _
      · exact .bind (.of_snd fun _ => rfl) fun settings => .bind (.ofExcept _) fun value =>
          .setLatest hview _ value

theorem keeps_fillOnUpdate : Run.Keeps view (fillOnUpdate equipment e f) := by
  refine .bind_context fun c => ?_
  split
  · exact .pure _
  · split
    · exact keeps_fillGenerated hview hgenerators
    · exact .reject _ _

theorem keeps_fillOnCreate : Run.Keeps view (fillOnCreate equipment e f) := by
  unfold fillOnCreate
  split
  · exact .pure _
  · split
    · exact .setLatest hview _ _
    · split
      · exact keeps_fillGenerated hview hgenerators
      · split
        · exact .pure _
        · exact .reject _ _

theorem keeps_fillField : Run.Keeps view (fillField equipment e mode f) := by
  refine .bind_context fun c => ?_
  split
  · exact keeps_fillGiven hview _
  · cases mode with
    | update => exact keeps_fillOnUpdate hview hgenerators
    | create => exact keeps_fillOnCreate hview hgenerators

theorem keeps_fill : Run.Keeps view (fill equipment e mode) := by
  refine .bind_context fun c => .bind ?_ fun _ => .forM fun f _ => keeps_fillField hview hgenerators
  unfold warnOfUnknown
  dsimp only
  split
  · exact .pure _
  · exact .warn hview _

end

omit hview in
theorem keeps_invoke {c : Call} (hc : c.modifier.Keeps view) (entity target : String)
    (scope : Record) (values : List Value) :
    Run.Keeps view (c.invoke entity target scope values) :=
  .explain (hc _ _) _

theorem keeps_runCalls {calls : List Call} (hcalls : ∀ c ∈ calls, c.modifier.Keeps view)
    (entity target : String) (kind : ModifierKind) :
    Run.Keeps view (Operation.runCalls entity target kind calls) := by
  refine .bind_context fun c => ?_
  cases kind with
  | validator =>
      generalize c.latest.getOrNull target = v
      dsimp only
      induction calls with
      | nil => exact .pure _
      | cons call calls ih =>
          refine .bind (keeps_invoke (hcalls call (by simp)) _ _ _ _) fun accepted => ?_
          split
          · exact ih fun c hc => hcalls c (by simp [hc])
          · exact .reject _ _
  | processor =>
      refine .bind ?_ fun v => .setLatest hview target v
      generalize c.scope = scope, c.latest.getOrNull target = v
      induction calls generalizing scope v with
      | nil => exact .pure _
      | cons call calls ih =>
          exact .bind (keeps_invoke (hcalls call (by simp)) _ _ _ _) fun result =>
            ih (fun c hc => hcalls c (by simp [hc])) _ _
  | activator =>
      have hderive : ∀ calls : List Call, (∀ c ∈ calls, c.modifier.Keeps view) →
          Run.Keeps view (Operation.derive? entity target c.scope calls) := by
        intro calls
        induction calls with
        | nil => exact fun _ => .pure _
        | cons call calls ih =>
            intro hcalls
            refine .bind (.ofExcept _) fun applies => ?_
            split
            · exact .bind (keeps_invoke (hcalls call (by simp)) _ _ _ _) fun _ => .pure _
            · exact ih fun c hc => hcalls c (by simp [hc])
      refine .bind (hderive _ (by simpa using hcalls)) fun derived => ?_
      split
      · exact .setLatest hview _ _
      · exact .pure _

theorem keeps_applyRoutine {r : Routine}
    (hmodifiers : ∀ g ∈ r.groups, ∀ o ∈ g.operations, ∀ c ∈ o.calls, c.modifier.Keeps view) :
    Run.Keeps view (r.apply e) := by
  refine .forM fun g hg => .bind_context fun c => ?_
  split
  · exact .pure _
  · exact .reject _ _
  · split
    · exact .forM fun o ho => keeps_runCalls hview (hmodifiers g hg o ho) _ _ _
    · exact .reject _ _

omit hview in
theorem keeps_runRules {rules : Rules} (hrules : ∀ r ∈ rules, ∀ a ∈ r.2, a.Keeps view)
    (point : RulePoint) : Run.Keeps view (e.runRules rules point) := by
  refine .forM fun u _ => ?_
  unfold FeatureUse.runRules
  dsimp only
  split
  · exact .bind (rules.keeps_run hrules _ _) fun _ => .pure _
  · exact .pure _

theorem keeps_reach (p : Progress) : Run.Keeps view (reach p) :=
  fun s => hview.context s s.context.latest s.context.mode p

theorem keeps_failed (f : Failure) (s : Session) : view (s.failed f) = view s := by
  unfold Session.failed
  split
  · rfl
  · exact keeps_reach hview .failed s

variable {r : Routine} (hgenerators : ∀ g ∈ equipment.generators, g.Keeps view)
  (hrules : ∀ r ∈ equipment.rules, ∀ a ∈ r.2, a.Keeps view)
  (hmodifiers : ∀ g ∈ r.groups, ∀ o ∈ g.operations, ∀ c ∈ o.calls, c.modifier.Keeps view)
include hgenerators hrules hmodifiers

theorem keeps_later : Run.Keeps view (later equipment e r mode) :=
  .bind (keeps_reach hview _) fun _ => .bind (keeps_fill hview hgenerators) fun _ =>
    .bind (keeps_reach hview _) fun _ => .bind (keeps_applyRoutine hview hmodifiers) fun _ =>
      .bind (keeps_reach hview _) fun _ => .bind (keeps_runRules hrules _) fun _ =>
        keeps_runRules hrules _

theorem keeps_prepare (hidentify : Run.Keeps view (identify equipment e r)) :
    Run.Keeps view (prepare equipment e r mode) := by
  have hlater : ∀ mode, Run.Keeps view (later equipment e r mode) := fun mode =>
    keeps_later hview hgenerators hrules hmodifiers
  have hsteps : Run.Keeps view (steps equipment e r mode) := by
    cases mode with
    | create => exact hlater .create
    | update =>
        exact .bind (keeps_reach hview _) fun _ => .bind hidentify fun _ => hlater .update
  intro s
  have hkeeps := (hsteps (s.begun mode)).trans (hview.context s [] (some mode) s.context.progress)
  rw [exec_prepare]
  rcases hexec : exec (steps equipment e r mode) (s.begun mode) with ⟨_ | _, t⟩ <;>
    rw [hexec] at hkeeps
  · exact (keeps_failed hview _ t).trans hkeeps
  · exact (keeps_reach hview .done t).trans hkeeps

omit hview hgenerators hrules hmodifiers in
theorem keeps_identify (hidentifies : ∀ s t : Session, s.Identifies t → view t = view s) :
    Run.Keeps view (identify equipment e r) :=
  fun s => hidentifies s _ (identifies_identify s)

end Preparation

namespace Preparation

variable {equipment : Equipment} {e : Entity} {r : Routine}

theorem condition_of_prepare
    (hgenerators : ∀ g ∈ equipment.generators, g.Keeps Session.ofCondition)
    (hrules : ∀ r ∈ equipment.rules, ∀ a ∈ r.2, a.Keeps Session.ofCondition)
    (hmodifiers : ∀ g ∈ r.groups, ∀ o ∈ g.operations, ∀ c ∈ o.calls,
      c.modifier.Keeps Session.ofCondition) {s t : Session} {values : Record}
    (hnone : s.context.existing = none)
    (h : exec (prepare equipment e r .update) s = (.ok values, t)) :
    ∃ condition raw, e.address s.context.raw s.context.condition = .ok (condition, raw) ∧
      t.context.condition = some condition := by
  rw [exec_prepare] at h
  rcases hsteps : exec (steps equipment e r .update) (s.begun .update) with ⟨f | _, u⟩
  · rw [hsteps] at h
    cases h
  · rw [hsteps] at h
    cases h
    rw [steps_update, exec_bind_of_ok (exec_reach _ _), exec_bind_eq_ok] at hsteps
    obtain ⟨_, v, hidentify, hlater⟩ := hsteps
    obtain ⟨condition, raw, existing, haddress, hv, _⟩ := exec_identify_ok
      (s := (s.begun .update).atPoint .resolveExisting) hnone hidentify
    have hkeeps : Run.Keeps Session.ofCondition (later equipment e r .update) :=
      keeps_later Session.apart_ofCondition hgenerators hrules hmodifiers
    have hcondition := hkeeps v
    rw [hlater, hv] at hcondition
    exact ⟨condition, raw, haddress, hcondition⟩

end Preparation

end FieldPipeline
