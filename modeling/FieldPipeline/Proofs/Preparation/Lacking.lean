import FieldPipeline.Proofs.Preparation.Failing

/-!
Which failures tell of something that is not there.  Only the guard of a group tells of fields
without a value, and it names no field that the record before the operation has; once the record of
an update has been found, no failure tells that there is none.
-/

namespace FieldPipeline

open Run

def Failure.lacking : Failure → List String
  | .rejected ⟨_, .dependencyMissing _ missing⟩ => missing
  | _ => []

def Failure.Misses (f : Failure) : Prop :=
  f.details.get? "rule" = some (.text "exists")

/-- Whether a failure tells of nothing that is not there. -/
structure Failure.LacksNothing (f : Failure) : Prop where
  field : f.lacking = []
  record : ¬f.Misses

def RejectionCause.LacksNothing : RejectionCause → Prop
  | .noRecord _ | .dependencyMissing _ _ => False
  | .checkFailed _ modifier | .modifierFailed _ modifier _ _ | .conditionFailed _ modifier _ _ =>
    modifier ≠ "exists"
  | _ => True

namespace Failure

theorem not_misses_of_details {f : Failure} (h : f.details = []) : ¬f.Misses := by
  unfold Misses
  rw [h]
  nofun

theorem not_misses_rejected {entity : Option String} {cause : RejectionCause}
    (h : cause.LacksNothing ∨ ∃ field missing, cause = .dependencyMissing field missing) :
    ¬(rejected ⟨entity, cause⟩).Misses := by
  cases entity <;> cases cause <;>
    simp_all [Misses, details, Rejection.details, Record.get?, RejectionCause.LacksNothing]

theorem lacksNothing_rejected {entity : Option String} {cause : RejectionCause}
    (h : cause.LacksNothing) : (rejected ⟨entity, cause⟩).LacksNothing where
  field := by
    cases cause with
    | dependencyMissing => exact h.elim
    | _ => rfl
  record := not_misses_rejected (.inl h)

theorem lacksNothing_fault (fault : Fault) : (Failure.fault fault).LacksNothing :=
  ⟨rfl, not_misses_of_details rfl⟩

theorem lacksNothing_field (p : FieldProblem) : (Failure.field p).LacksNothing :=
  ⟨rfl, not_misses_of_details rfl⟩

end Failure

def Run.FailsAs {α : Type} (P : Failure → Prop) (x : Run α) : Prop :=
  ∀ s f t, exec x s = (.error f, t) → P f

namespace Run.FailsAs

variable {α β : Type} {P : Failure → Prop}

theorem pure (a : α) : FailsAs P (Pure.pure a : Run α) := by
  intro s f t h
  cases h

theorem fail {f : Failure} (hf : P f) : FailsAs P (Run.fail f : Run α) := by
  intro s g t h
  cases h
  exact hf

theorem setLatest (name : String) (v : Value) : FailsAs P (Run.setLatest name v) := by
  intro s f t h
  cases h

theorem warn (text : String) : FailsAs P (Run.warn text) := by
  intro s f t h
  cases h

theorem ofExcept {r : Except Failure α} (hr : ∀ f, r = .error f → P f) :
    FailsAs P (Run.ofExcept r) := by
  intro s f t h
  rw [exec_ofExcept] at h
  exact hr f (congrArg Prod.fst h)

theorem bind {x : Run α} {f : α → Run β} (hx : FailsAs P x) (hf : ∀ a, FailsAs P (f a)) :
    FailsAs P (x >>= f) := by
  intro s g t h
  rcases exec_bind_eq_error.mp h with h | ⟨a, u, -, h⟩
  · exact hx s g t h
  · exact hf a u g t h

theorem bind_context {f : Context → Run β} (hf : ∀ c, FailsAs P (f c)) :
    FailsAs P (Run.context >>= f) := by
  intro s g t h
  rw [exec_bind_of_ok (exec_context s)] at h
  exact hf _ s g t h

theorem forM {f : α → Run Unit} {l : List α} (hf : ∀ a ∈ l, FailsAs P (f a)) :
    FailsAs P (l.forM f) := by
  intro s g t h
  obtain ⟨before, a, after, u, hl, -, ha⟩ := exec_forM_error_split h
  exact hf a (by simp [hl]) u g t ha

theorem explain {x : Run α} {retell : Failure → Failure}
    (hx : FailsAs (fun f => P (retell f)) x) : FailsAs P (x.explain retell) := by
  intro s f t h
  rw [exec_explain] at h
  rcases hexec : exec x s with ⟨g | a, u⟩
  · rw [hexec] at h
    cases h
    exact hx s g _ hexec
  · rw [hexec] at h
    cases h

theorem of_exec_eq {x y : Run α} (h : ∀ s, exec x s = exec y s) (hy : FailsAs P y) :
    FailsAs P x := by
  intro s f t hx
  rw [h] at hx
  exact hy s f t hx

end Run.FailsAs

abbrev Run.LacksNothing {α : Type} (x : Run α) : Prop :=
  FailsAs Failure.LacksNothing x

namespace Preparation

variable {equipment : Equipment} {e : Entity} {mode : Mode} {f : Field}

theorem lacksNothing_generate (hf : f.Known Generator.builtin) (locale : Value) :
    LacksNothing (f.generate Generator.builtin locale) := by
  intro s failure t h
  cases Field.unmade_of_generate hf h with
  | generator => exact Failure.lacksNothing_field _
  | length => exact Failure.lacksNothing_fault _

theorem lacksNothing_fillGenerated (hf : f.Known Generator.builtin)
    (hgenerators : equipment.generators = Generator.builtin) :
    LacksNothing (fillGenerated equipment e f) := by
  refine .bind (.bind_context fun c => .explain ?_) fun v => .setLatest _ _
  intro s failure t h
  rw [hgenerators] at h
  cases Field.unmade_of_generate hf h with
  | generator => exact Failure.lacksNothing_rejected trivial
  | length => exact Failure.lacksNothing_fault _

theorem lacksNothing_fillGiven (hf : f.Known Generator.builtin) (v : Value) :
    LacksNothing (fillGiven e mode f v) := by
  refine .bind_context fun c => ?_
  split
  · exact .fail (Failure.lacksNothing_rejected trivial)
  · split
    · exact .fail (Failure.lacksNothing_rejected trivial)
    · split
      · split
        · exact .setLatest _ _
        · exact .fail (Failure.lacksNothing_rejected trivial)
      · refine .bind (fun _ _ _ h => by cases h) fun settings => .bind (.ofExcept ?_) fun _ =>
          .setLatest _ _
        intro failure h
        obtain ⟨type, htype, -⟩ := hf.type
        unfold coerced at h
        cases hcoerce : f.coerce settings v with
        | ok w =>
            rw [hcoerce] at h
            cases h
        | error g =>
            rw [hcoerce] at h
            cases h
            dsimp only
            rw [if_pos (Field.kind_of_coerce htype hcoerce)]
            exact Failure.lacksNothing_rejected trivial

theorem lacksNothing_fill (hfields : ∀ f ∈ e.fields, f.Known Generator.builtin)
    (hgenerators : equipment.generators = Generator.builtin) :
    LacksNothing (fill equipment e mode) := by
  refine .bind_context fun c => .bind ?_ fun _ => .forM fun f hf => .bind_context fun c' => ?_
  · unfold warnOfUnknown
    dsimp only
    split
    · exact .pure _
    · exact .warn _
  have hmade : LacksNothing (fillGenerated equipment e f) :=
    lacksNothing_fillGenerated (hfields f hf) hgenerators
  split
  · exact lacksNothing_fillGiven (hfields f hf) _
  · cases mode with
    | update =>
        refine .bind_context fun c => ?_
        split
        · exact .pure _
        · split
          · exact hmade
          · exact .fail (Failure.lacksNothing_rejected trivial)
    | create =>
        dsimp only
        unfold fillOnCreate
        split
        · exact .pure _
        · split
          · exact .setLatest _ _
          · split
            · exact hmade
            · split
              · exact .pure _
              · exact .fail (Failure.lacksNothing_rejected trivial)

end Preparation

namespace Operation

variable {entity target : String} {calls : List Call}

theorem name_ne_of_mem_builtin {m : Modifier} (hm : m ∈ ModifierTable.builtin) :
    m.name ≠ "exists" := by
  have hnames : "exists" ∉ ModifierTable.builtin.map (·.name) := by decide +kernel
  exact fun hname => hnames (hname ▸ List.mem_map_of_mem hm)

theorem lacksNothing_invoke {c : Call} (hc : c.modifier ∈ ModifierTable.builtin) (scope : Record)
    (values : List Value) : LacksNothing (c.invoke entity target scope values) := by
  refine .explain ?_
  intro s f t h
  unfold Call.retell
  split
  iterate 3 exact Failure.lacksNothing_rejected (name_ne_of_mem_builtin hc)
  · rename_i hformula htype hvalue
    rcases ModifierTable.explained_builtin _ hc _ _ _ _ _ h with htold | ⟨fault, rfl, -⟩
    · exact absurd htold (by simp only [Failure.IsTold]; tauto)
    · exact Failure.lacksNothing_fault fault

theorem lacksNothing_validate (hcalls : ∀ c ∈ calls, c.modifier ∈ ModifierTable.builtin)
    (scope : Record) (v : Value) : LacksNothing (validate entity target scope v calls) := by
  induction calls with
  | nil => exact .pure _
  | cons c calls ih =>
      refine .bind (lacksNothing_invoke (hcalls c (by simp)) _ _) fun accepted => ?_
      split
      · exact ih fun c hc => hcalls c (by simp [hc])
      · exact .fail (Failure.lacksNothing_rejected (name_ne_of_mem_builtin (hcalls c (by simp))))

theorem lacksNothing_process (hcalls : ∀ c ∈ calls, c.modifier ∈ ModifierTable.builtin)
    (scope : Record) (v : Value) : LacksNothing (process entity target scope v calls) := by
  induction calls generalizing scope v with
  | nil => exact .pure _
  | cons c calls ih =>
      refine .bind (lacksNothing_invoke (hcalls c (by simp)) _ _) fun result => ?_
      exact ih (fun c hc => hcalls c (by simp [hc])) _ _

theorem lacksNothing_derive? (hcalls : ∀ c ∈ calls, c.modifier ∈ ModifierTable.builtin)
    (scope : Record) : LacksNothing (derive? entity target scope calls) := by
  induction calls with
  | nil => exact .pure _
  | cons c calls ih =>
      refine .bind (.ofExcept fun f hf => ?_) fun applies => ?_
      · unfold Call.applies at hf
        split at hf
        · cases hf
        · cases hholds : Expression.conditionHolds _ scope with
          | ok holds =>
              rw [hholds] at hf
              cases hf
          | error e =>
              rw [hholds] at hf
              cases hf
              exact Failure.lacksNothing_rejected (name_ne_of_mem_builtin (hcalls c (by simp)))
      · split
        · exact .bind (lacksNothing_invoke (hcalls c (by simp)) _ _) fun _ => .pure _
        · exact ih fun c hc => hcalls c (by simp [hc])

theorem lacksNothing_runCalls (hcalls : ∀ c ∈ calls, c.modifier ∈ ModifierTable.builtin)
    (kind : ModifierKind) : LacksNothing (runCalls entity target kind calls) := by
  refine .bind_context fun c => ?_
  cases kind with
  | validator => exact lacksNothing_validate hcalls _ _
  | processor => exact .bind (lacksNothing_process hcalls _ _) fun _ => .setLatest _ _
  | activator =>
      refine .bind (lacksNothing_derive? (by simpa using hcalls) _) fun derived => ?_
      split
      · exact .setLatest _ _
      · exact .pure _

end Operation

theorem Group.lacksNothing_or_missing {e : Entity} {g : Group} {s t : Session} {f : Failure}
    (hcalls : ∀ o ∈ g.operations, ∀ c ∈ o.calls, c.modifier ∈ ModifierTable.builtin)
    (h : exec (g.apply e) s = (.error f, t)) :
    f.LacksNothing ∨
      f = .rejected ⟨some e.name, .dependencyMissing g.target (g.missing s.context)⟩ := by
  unfold Group.apply at h
  rw [exec_bind_of_ok (exec_context s)] at h
  split at h
  · cases h
  · cases h
    exact .inl (Failure.lacksNothing_rejected trivial)
  · split at h
    · exact .inl (Run.FailsAs.forM (P := Failure.LacksNothing) (fun o ho =>
        Operation.lacksNothing_runCalls (hcalls o ho) o.kind) s f t h)
    · cases h
      exact .inr rfl

theorem Group.not_misses_apply {e : Entity} {g : Group}
    (hcalls : ∀ o ∈ g.operations, ∀ c ∈ o.calls, c.modifier ∈ ModifierTable.builtin) :
    Run.FailsAs (¬·.Misses) (g.apply e) := by
  intro s f t h
  rcases g.lacksNothing_or_missing hcalls h with hnothing | rfl
  · exact hnothing.record
  · exact Failure.not_misses_rejected (.inr ⟨_, _, rfl⟩)

theorem Group.lookUp?_of_lacking {e : Entity} {g : Group} {s t : Session} {f : Failure}
    (hcalls : ∀ o ∈ g.operations, ∀ c ∈ o.calls, c.modifier ∈ ModifierTable.builtin)
    (h : exec (g.apply e) s = (.error f, t)) {name : String} (hname : name ∈ f.lacking) :
    s.context.lookUp? name = none := by
  rcases g.lacksNothing_or_missing hcalls h with hnothing | rfl
  · rw [hnothing.field] at hname
    cases hname
  · have hmissing := (List.mem_filter.mp hname).2
    simpa using hmissing

theorem Routine.former_of_lacking {e : Entity} {r : Routine} {s t : Session} {f : Failure}
    (hdraws : r.Draws)
    (hcalls : ∀ g ∈ r.groups, ∀ o ∈ g.operations, ∀ c ∈ o.calls,
      c.modifier ∈ ModifierTable.builtin)
    {former : Record} (hformer : s.context.existing = some former)
    (h : exec (r.apply e) s = (.error f, t)) {name : String} (hname : name ∈ f.lacking) :
    former.has name = false := by
  obtain ⟨before, g, after, u, hgroups, hbefore, hg⟩ := exec_forM_error_split h
  have hexisting := (hdraws.writes_before hgroups hbefore).existing
  have hnone := g.lookUp?_of_lacking (hcalls g (by simp [hgroups])) hg hname
  unfold Context.lookUp? at hnone
  rw [hexisting.trans hformer] at hnone
  split at hnone
  · cases hnone
  · exact (Record.get?_eq_none_iff _ _).mp hnone

theorem Entity.lacksNothing_runRules {e : Entity} (hsound : e.Sound)
    (hfields : ∀ f ∈ e.fields, f.Known Generator.builtin) (point : RulePoint) :
    LacksNothing (e.runRules (Feature.rulesOf Feature.builtin) point) := by
  refine .forM fun u hu => .of_exec_eq (FeatureUse.exec_runRules (hsound.known u hu) e point) ?_
  unfold Feature.work
  cases point with
  | postDataValidation =>
      dsimp only
      split
      · refine .bind_context fun c => ?_
        dsimp only
        split
        · exact .pure _
        · split
          · split
            · rename_i f hf
              obtain ⟨hmem, -⟩ := Entity.mem_of_field? hf
              exact .bind (Preparation.lacksNothing_generate (hfields f hmem) _) fun _ =>
                .setLatest _ _
            · exact .fail (Failure.lacksNothing_fault _)
          · exact .pure _
      · exact .pure _
  | postCreateCheck | postUpdateCheck =>
      dsimp only
      split
      · refine .bind_context fun c => ?_
        split
        · exact .fail (Failure.lacksNothing_rejected trivial)
        · exact .pure _
      · exact .pure _
  | beforeCreate | beforeUpdate => exact .pure _

namespace Preparation

variable {e : Entity} {r : Routine} {mode : Mode} {s t : Session} {f : Failure} {former : Record}

section

variable (hsound : e.Sound) (hfields : ∀ f ∈ e.fields, f.Known Generator.builtin)
include hsound hfields

theorem lacksNothing_or_apply (h : exec (later {} e r mode) s = (.error f, t)) :
    f.LacksNothing ∨ ∃ u, u.context.existing = s.context.existing ∧
      exec (r.apply e) u = (.error f, t) := by
  unfold later at h
  rw [exec_bind_of_ok (exec_reach _ _), exec_bind_eq_error] at h
  rcases h with h | ⟨_, u, hfill, h⟩
  · exact .inl (lacksNothing_fill hfields rfl _ _ _ h)
  rw [exec_bind_of_ok (exec_reach _ _), exec_bind_eq_error] at h
  rcases h with h | ⟨_, v, -, h⟩
  · have hfilled := (writesOnly_fill fun g hg => Generator.draws_of_mem_builtin hg).writes hfill
    exact .inr ⟨u.atPoint .applyRoutine, hfilled.existing, h⟩
  rw [exec_bind_of_ok (exec_reach _ _), exec_bind_eq_error] at h
  rcases h with h | ⟨_, w, -, h⟩
  · exact .inl (e.lacksNothing_runRules hsound hfields _ _ _ _ h)
  · exact .inl (e.lacksNothing_runRules hsound hfields _ _ _ _ h)

variable {merging : Bool} (hcompile : e.compile ModifierTable.builtin merging = .ok r)
include hcompile

/-- What is left to do when the record of an operation has been found is never refused for want of
a value that this record has. -/
theorem former_of_lacking (hformer : s.context.existing = some former)
    (h : exec (later {} e r mode) s = (.error f, t)) {name : String} (hname : name ∈ f.lacking) :
    former.has name = false := by
  rcases lacksNothing_or_apply hsound hfields h with hnothing | ⟨u, hu, happly⟩
  · rw [hnothing.field] at hname
    cases hname
  · exact Routine.former_of_lacking
      (Entity.draws_of_compile (fun m hm => ModifierTable.draws_builtin hm) hcompile)
      (Entity.registered_of_compile hcompile) (hu.trans hformer) happly hname

theorem not_misses_later : FailsAs (¬·.Misses) (later {} e r mode) := by
  intro s f t h
  rcases lacksNothing_or_apply hsound hfields h with hnothing | ⟨u, -, happly⟩
  · exact hnothing.record
  · exact FailsAs.forM (fun g hg => g.not_misses_apply
      (Entity.registered_of_compile hcompile g hg)) u f t happly

end

end Preparation

end FieldPipeline
