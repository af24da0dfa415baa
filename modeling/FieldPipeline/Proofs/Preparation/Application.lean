import FieldPipeline.Preparation.Filling
import FieldPipeline.Proofs.Drawing
import FieldPipeline.Proofs.Sequence
import FieldPipeline.Proofs.Writing
import FieldPipeline.Preparation.Application

/-!
What giving the fields their first values and applying a routine do to a session when generators
and modifiers only draw on the sources: the one writes to the fields of the entity, the other to
the targets of its groups, and neither to anything else.
-/

namespace FieldPipeline

open Run

/-- Whether a generator only draws on the sources. -/
def Generator.Draws (g : Generator) : Prop :=
  ∀ f locale, Run.Draws (g.generate f locale)

theorem Generator.draws_of_mem_builtin {g : Generator} (hg : g ∈ builtin) : g.Draws :=
  draws_builtin g hg

namespace Preparation

variable {equipment : Equipment} {e : Entity} {mode : Mode} {f : Field}

theorem writesOnly_fillGenerated (hdraws : ∀ g ∈ equipment.generators, g.Draws) :
    WritesOnly (· = f.name) (fillGenerated equipment e f) := by
  refine .bind (.bind_context fun c => ?_) fun v => .setLatest ?_ v
  · exact .explain (.ofDraws (f.draws_generate hdraws c.locale)) _
  · rfl

theorem writesOnly_fillGiven (v : Value) : WritesOnly (· = f.name) (fillGiven e mode f v) := by
  refine .bind_context fun c => ?_
  split
  · exact .reject _ _
  · split
    · exact .reject _ _
    · split
      · split
        · refine .setLatest ?_ _
          rfl
        · exact .reject _ _
      · refine .bind (.ofDraws .settings) fun settings => .bind (.ofExcept _) fun value =>
          .setLatest ?_ value
        rfl

theorem writesOnly_fillOnUpdate (hdraws : ∀ g ∈ equipment.generators, g.Draws) :
    WritesOnly (· = f.name) (fillOnUpdate equipment e f) := by
  refine .bind_context fun c => ?_
  split
  · exact .pure _
  · split
    · exact writesOnly_fillGenerated hdraws
    · exact .reject _ _

theorem writesOnly_fillOnCreate (hdraws : ∀ g ∈ equipment.generators, g.Draws) :
    WritesOnly (· = f.name) (fillOnCreate equipment e f) := by
  unfold fillOnCreate
  split
  · exact .pure _
  · split
    · refine .setLatest ?_ _
      rfl
    · split
      · exact writesOnly_fillGenerated hdraws
      · split
        · exact .pure _
        · exact .reject _ _

theorem writesOnly_fillField (hdraws : ∀ g ∈ equipment.generators, g.Draws) :
    WritesOnly (· = f.name) (fillField equipment e mode f) := by
  refine .bind_context fun c => ?_
  split
  · exact writesOnly_fillGiven _
  · cases mode with
    | update => exact writesOnly_fillOnUpdate hdraws
    | create => exact writesOnly_fillOnCreate hdraws

theorem exec_fillGiven_ok {v : Value} {s t : Session}
    (h : exec (fillGiven e mode f v) s = (.ok (), t)) :
    f.readOnly = false ∧ ∃ w, t = s.write f.name w ∧
      (v.isNull = true ∧ f.optional = true ∧ w = .null ∨
        v.isNull = false ∧ f.coerce s.settings v = .ok w) := by
  unfold fillGiven at h
  rw [exec_bind_of_ok (exec_context s)] at h
  split at h
  · cases h
  · rename_i hreadOnly
    refine ⟨by simpa using hreadOnly, ?_⟩
    split at h
    · cases h
    · split at h
      · rename_i hnull
        split at h
        · rename_i hoptional
          cases h
          exact ⟨.null, rfl, .inl ⟨hnull, hoptional, rfl⟩⟩
        · cases h
      · rename_i hnull
        rw [exec_bind_of_ok (exec_settings s), exec_bind_eq_ok, exec_ofExcept] at h
        obtain ⟨w, u, hcoerced, h⟩ := h
        cases h
        cases congrArg Prod.snd hcoerced
        exact ⟨w, rfl, .inr ⟨by simpa using hnull,
          mapError_eq_ok.mp (congrArg Prod.fst hcoerced)⟩⟩

theorem writesOnly_warnOfUnknown {written : String → Prop} (raw : Record) :
    WritesOnly written (warnOfUnknown e raw) := by
  unfold warnOfUnknown
  dsimp only
  split
  · exact .pure _
  · exact .warn _

theorem writesOnly_fill (hdraws : ∀ g ∈ equipment.generators, g.Draws) :
    WritesOnly (fun name => ∃ f ∈ e.fields, name = f.name) (fill equipment e mode) := by
  refine .bind_context fun c => .bind (writesOnly_warnOfUnknown c.raw) fun _ => .forM ?_
  intro f hf
  exact (writesOnly_fillField hdraws).mono fun name hname => ⟨f, hf, hname⟩

theorem exists_fields_of_fill (hdraws : ∀ g ∈ equipment.generators, g.Draws) (hf : f ∈ e.fields)
    {s t : Session} (h : exec (fill equipment e mode) s = (.ok (), t)) :
    ∃ before after u v, e.fields = before ++ f :: after ∧
      Session.Writes (fun name => name ∈ before.map (·.name)) s u ∧
      exec (fillField equipment e mode f) u = (.ok (), v) ∧
      Session.Writes (fun name => name ∈ after.map (·.name)) v t := by
  unfold fill at h
  rw [exec_bind_of_ok (exec_context s), exec_bind_eq_ok] at h
  obtain ⟨_, u, hwarn, h⟩ := h
  have hothers : ∀ fields : List Field, WritesOnly (fun name => name ∈ fields.map (·.name))
      (fields.forM (fillField equipment e mode)) := fun fields =>
    .forM fun g hg => (writesOnly_fillField hdraws).mono fun _ heq =>
      heq ▸ List.mem_map_of_mem hg
  obtain ⟨before, after, hfields⟩ := List.append_of_mem hf
  rw [hfields] at h
  obtain ⟨v, w, hbefore, hturn, hafter⟩ := exec_forM_ok_split h
  exact ⟨before, after, v, w, hfields,
    ((writesOnly_warnOfUnknown _).writes hwarn).trans ((hothers before).writes hbefore), hturn,
    (hothers after).writes hafter⟩

theorem exists_turn_of_fill (hdraws : ∀ g ∈ equipment.generators, g.Draws) (hf : f ∈ e.fields)
    {s t : Session} (h : exec (fill equipment e mode) s = (.ok (), t)) :
    ∃ u v, Session.Writes (fun _ => True) s u ∧
      exec (fillField equipment e mode f) u = (.ok (), v) ∧
      Session.Writes (fun _ => True) v t := by
  obtain ⟨_, _, u, v, -, hbefore, hturn, hafter⟩ := exists_fields_of_fill hdraws hf h
  exact ⟨u, v, hbefore.mono fun _ _ => trivial, hturn, hafter.mono fun _ _ => trivial⟩

theorem exists_own_turn_of_fill (hdraws : ∀ g ∈ equipment.generators, g.Draws)
    (hdistinct : e.fieldNames.Nodup) (hf : f ∈ e.fields) {s t : Session}
    (h : exec (fill equipment e mode) s = (.ok (), t)) :
    ∃ u v, Session.Writes (· ≠ f.name) s u ∧
      exec (fillField equipment e mode f) u = (.ok (), v) ∧ Session.Writes (· ≠ f.name) v t := by
  obtain ⟨before, after, u, v, hfields, hbefore, hturn, hafter⟩ := exists_fields_of_fill hdraws hf h
  rw [Entity.fieldNames, hfields, List.map_append, List.map_cons, List.nodup_append,
    List.nodup_cons] at hdistinct
  refine ⟨u, v, hbefore.mono fun name hname => ?_, hturn, hafter.mono fun name hname => ?_⟩
  · exact hdistinct.2.2 name hname f.name (by simp)
  · rintro rfl
    exact hdistinct.2.1.1 hname

end Preparation

def Modifier.Draws (m : Modifier) : Prop :=
  ∀ args scope, Run.Draws (m.apply args scope)

def Routine.Draws (r : Routine) : Prop :=
  ∀ g ∈ r.groups, ∀ o ∈ g.operations, ∀ c ∈ o.calls, c.modifier.Draws

theorem Call.draws_invoke {c : Call} (hc : c.modifier.Draws) (entity target : String)
    (scope : Record) (values : List Value) : Run.Draws (c.invoke entity target scope values) :=
  .explain (hc _ _) _

namespace Operation

variable {entity target : String} {calls : List Call}

theorem draws_validate (hcalls : ∀ c ∈ calls, c.modifier.Draws) (scope : Record) (v : Value) :
    Run.Draws (validate entity target scope v calls) := by
  induction calls with
  | nil => exact .pure _
  | cons c calls ih =>
      refine .bind (c.draws_invoke (hcalls c (by simp)) _ _ _ _) fun accepted => ?_
      split
      · exact ih fun c hc => hcalls c (by simp [hc])
      · exact .fail _

theorem draws_process (hcalls : ∀ c ∈ calls, c.modifier.Draws) (scope : Record) (v : Value) :
    Run.Draws (process entity target scope v calls) := by
  induction calls generalizing scope v with
  | nil => exact .pure _
  | cons c calls ih =>
      refine .bind (c.draws_invoke (hcalls c (by simp)) _ _ _ _) fun result => ?_
      exact ih (fun c hc => hcalls c (by simp [hc])) _ _

theorem draws_derive? (hcalls : ∀ c ∈ calls, c.modifier.Draws) (scope : Record) :
    Run.Draws (derive? entity target scope calls) := by
  induction calls with
  | nil => exact .pure _
  | cons c calls ih =>
      refine .bind (.ofExcept _) fun applies => ?_
      split
      · exact .bind (c.draws_invoke (hcalls c (by simp)) _ _ _ _) fun _ => .pure _
      · exact ih fun c hc => hcalls c (by simp [hc])

theorem writesOnly_runCalls (kind : ModifierKind) (hcalls : ∀ c ∈ calls, c.modifier.Draws) :
    WritesOnly (· = target) (runCalls entity target kind calls) := by
  refine .bind_context fun c => ?_
  cases kind with
  | validator => exact .ofDraws (draws_validate hcalls _ _)
  | processor =>
      refine .bind (.ofDraws (draws_process hcalls _ _)) fun _ => .setLatest ?_ _
      rfl
  | activator =>
      have hreverse : ∀ c ∈ calls.reverse, c.modifier.Draws := by simpa using hcalls
      refine .bind (.ofDraws (draws_derive? hreverse _)) fun derived => ?_
      split
      · refine .setLatest ?_ _
        rfl
      · exact .pure _

theorem writesOnly_forM (entity target : String) {operations : List Operation}
    (hcalls : ∀ o ∈ operations, ∀ c ∈ o.calls, c.modifier.Draws) :
    WritesOnly (· = target) (operations.forM fun o => runCalls entity target o.kind o.calls) :=
  .forM fun o ho => writesOnly_runCalls o.kind (hcalls o ho)

end Operation

variable {e : Entity}

theorem Group.writesOnly_apply {g : Group}
    (hcalls : ∀ o ∈ g.operations, ∀ c ∈ o.calls, c.modifier.Draws) :
    WritesOnly (· = g.target) (g.apply e) := by
  refine .bind_context fun c => ?_
  split
  · exact .pure _
  · exact .reject _ _
  · split
    · exact Operation.writesOnly_forM e.name g.target hcalls
    · exact .reject _ _

theorem Routine.writesOnly_groups {groups : List Group}
    (hdraws : ∀ g ∈ groups, ∀ o ∈ g.operations, ∀ c ∈ o.calls, c.modifier.Draws) :
    WritesOnly (fun name => ∃ g ∈ groups, name = g.target) (groups.forM (Group.apply e)) :=
  .forM fun g hg => (Group.writesOnly_apply (hdraws g hg)).mono fun _ h => ⟨g, hg, h⟩

theorem Routine.Draws.writes_before {r : Routine} (hdraws : r.Draws) {done rest : List Group}
    {g : Group} (hgroups : r.groups = done ++ g :: rest) {s t : Session}
    (hdone : exec (done.forM (Group.apply e)) s = (.ok (), t)) :
    Session.Writes (fun name => ∃ g' ∈ done, name = g'.target) s t :=
  (writesOnly_groups fun g' hg' => hdraws g' (by simp [hgroups, hg'])).writes hdone

theorem Routine.writesOnly_apply {r : Routine} (hdraws : r.Draws) :
    WritesOnly (fun name => ∃ g ∈ r.groups, name = g.target) (r.apply e) :=
  writesOnly_groups hdraws

end FieldPipeline
