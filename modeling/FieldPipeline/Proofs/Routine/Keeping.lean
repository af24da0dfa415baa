import FieldPipeline.Proofs.Routine.Fusion
import FieldPipeline.Proofs.Routine.Turns

/-!
Fields that keep having a value.  While validators and processors work on such a field, all guards
that ask for it go on answering the same, so that several uses may stand under one guard that asks
for everything they need, or each under its own.
-/

namespace FieldPipeline

open Run

def Call.KeepsValues (entity target : String) (c : Call) : Prop :=
  ∀ scope v s w t, v.isNull = false →
    exec (c.invoke entity target scope [v]) s = (.ok w, t) → w.isNull = false

def Context.Given (field : String) (c : Context) : Prop :=
  ∃ v, c.latest.get? field = some v ∧ v.isNull = false

namespace Operation

variable {entity target : String} {calls : List Call}

theorem isNull_process (hkeeps : ∀ c ∈ calls, c.KeepsValues entity target) {scope : Record}
    {v w : Value} {s t : Session} (hv : v.isNull = false)
    (h : exec (process entity target scope v calls) s = (.ok w, t)) : w.isNull = false := by
  induction calls generalizing scope v s with
  | nil =>
      cases h
      exact hv
  | cons c calls ih =>
      rw [process, exec_bind_eq_ok] at h
      obtain ⟨u, s', hu, h⟩ := h
      exact ih (fun c hc => hkeeps c (by simp [hc])) (hkeeps c (by simp) _ _ _ _ _ hv hu) h

theorem given_of_runCalls {kind : ModifierKind} (hkind : kind ≠ .activator)
    (hcalls : ∀ c ∈ calls, c.modifier.Draws)
    (hkeeps : kind = .processor → ∀ c ∈ calls, c.KeepsValues entity target) {s t : Session}
    (hs : s.context.Given target) (h : exec (runCalls entity target kind calls) s = (.ok (), t)) :
    t.context.Given target := by
  cases kind with
  | activator => exact absurd rfl hkind
  | validator =>
      rw [exec_runCalls_validator] at h
      have hcontext := (@draws_validate entity target calls hcalls s.context.scope
        (s.context.latest.getOrNull target)).context_eq s
      rw [h] at hcontext
      change t.context = s.context at hcontext
      exact hcontext ▸ hs
  | processor =>
      rw [exec_runCalls_processor, exec_bind_eq_ok] at h
      obtain ⟨w, u, hw, h⟩ := h
      obtain ⟨v, hv, hnull⟩ := hs
      have hvalue : s.context.latest.getOrNull target = v := by simp [Record.getOrNull, hv]
      rw [hvalue] at hw
      cases h
      exact ⟨w, Record.get?_put_self _ _ _, isNull_process (hkeeps rfl) hnull hw⟩

end Operation

namespace Group

variable {e : Entity} {g g₁ g₂ : Group} {c c' : Context}

theorem answer_of_requireTarget (hrequire : g.requireTarget = true) :
    g.answer e c = match c.latest.get? g.target with
      | some v =>
        if v.isNull then .ok false
        else if g.missing c = [] then .ok true
        else .error (.rejected ⟨some e.name, .dependencyMissing g.target (g.missing c)⟩)
      | none =>
        if c.mode = some .update ∧ g.requiredFields.any c.latest.has = true then
          .error (.rejected ⟨some e.name, .dependencyChanged g.target⟩)
        else .ok false := by
  unfold answer verdict
  simp only [hrequire, if_true]
  cases c.latest.get? g.target with
  | none =>
      simp only [Bool.and_eq_true, decide_eq_true_eq]
      by_cases h : c.mode = some .update ∧ g.requiredFields.any c.latest.has = true
      · rw [if_pos h, if_pos h]
      · rw [if_neg h, if_neg h]
  | some v =>
      dsimp only
      by_cases hnull : v.isNull = true
      · rw [if_pos hnull, if_pos hnull]
      · rw [if_neg hnull, if_neg hnull]
        cases hmissing : g.missing c with
        | nil => rfl
        | cons name missing => rw [if_neg (by simp)]

theorem answer_of_given (hrequire : g.requireTarget = true) (hc : c.Given g.target) :
    g.answer e c = if g.missing c = [] then .ok true
      else .error (.rejected ⟨some e.name, .dependencyMissing g.target (g.missing c)⟩) := by
  obtain ⟨v, hv, hnull⟩ := hc
  simp [answer_of_requireTarget hrequire, hv, hnull]

theorem given_of_answer (hrequire : g.requireTarget = true) (h : g.answer e c = .ok true) :
    c.Given g.target := by
  rw [answer_of_requireTarget hrequire] at h
  cases hv : c.latest.get? g.target with
  | none => rw [hv] at h; dsimp only at h; split at h <;> cases h
  | some v =>
      rw [hv] at h
      cases hnull : v.isNull with
      | true => simp [hnull] at h
      | false => exact ⟨v, hv, hnull⟩

theorem answer_eq_of_given (hrequire : g.requireTarget = true) {s t : Session}
    (hwrites : Session.Writes (· = g.target) s t) (hs : s.context.Given g.target)
    (ht : t.context.Given g.target) : g.answer e t.context = g.answer e s.context := by
  have hmissing : g.missing t.context = g.missing s.context := by
    unfold missing
    apply List.filter_congr
    intro name _
    by_cases hname : name = g.target
    · obtain ⟨v, hv, _⟩ := hs
      obtain ⟨w, hw, _⟩ := ht
      simp [Context.lookUp?, hname, hv, hw]
    · rw [hwrites.lookUp? hname]
  rw [answer_of_given hrequire hs, answer_of_given hrequire ht, hmissing]

theorem missing_eq_nil_iff : g.missing c = [] ↔
    ∀ name ∈ g.requiredFields, (c.lookUp? name).isSome = true := by
  unfold missing
  rw [List.filter_eq_nil_iff]
  constructor
  · intro h name hname
    have hsome := h name hname
    cases hlookUp : c.lookUp? name <;> simp [hlookUp] at hsome ⊢
  · intro h name hname
    have hsome := h name hname
    cases hlookUp : c.lookUp? name <;> simp [hlookUp] at hsome ⊢

structure Joins (g g₁ g₂ : Group) : Prop where
  requireTarget : g.requireTarget = true
  requireTarget₁ : g₁.requireTarget = true
  requireTarget₂ : g₂.requireTarget = true
  target₁ : g₁.target = g.target
  target₂ : g₂.target = g.target
  requiredFields : ∀ name,
    name ∈ g.requiredFields ↔ name ∈ g₁.requiredFields ∨ name ∈ g₂.requiredFields

theorem Joins.answer_iff (h : g.Joins g₁ g₂) (admitted : Bool) : g.answer e c = .ok admitted ↔
    g₁.answer e c = .ok admitted ∧ g₂.answer e c = .ok admitted := by
  rw [answer_of_requireTarget h.requireTarget, answer_of_requireTarget h.requireTarget₁,
    answer_of_requireTarget h.requireTarget₂, h.target₁, h.target₂]
  cases c.latest.get? g.target with
  | none =>
      have hany : g.requiredFields.any c.latest.has = true ↔
          g₁.requiredFields.any c.latest.has = true ∨
            g₂.requiredFields.any c.latest.has = true := by
        simp only [List.any_eq_true, h.requiredFields]
        constructor
        · rintro ⟨name, hname | hname, hhas⟩
          · exact .inl ⟨name, hname, hhas⟩
          · exact .inr ⟨name, hname, hhas⟩
        · rintro (⟨name, hname, hhas⟩ | ⟨name, hname, hhas⟩)
          · exact ⟨name, .inl hname, hhas⟩
          · exact ⟨name, .inr hname, hhas⟩
      dsimp only
      simp only [hany]
      by_cases hmode : c.mode = some .update
      · by_cases h₁ : g₁.requiredFields.any c.latest.has = true
        · simp [hmode, h₁]
        · by_cases h₂ : g₂.requiredFields.any c.latest.has = true <;> simp [hmode, h₁, h₂]
      · simp [hmode]
  | some v =>
      have hmissing : g.missing c = [] ↔ g₁.missing c = [] ∧ g₂.missing c = [] := by
        simp only [missing_eq_nil_iff, h.requiredFields]
        constructor
        · intro h
          exact ⟨fun name hname => h name (.inl hname), fun name hname => h name (.inr hname)⟩
        · rintro ⟨h₁, h₂⟩ name (hname | hname)
          · exact h₁ name hname
          · exact h₂ name hname
      dsimp only
      cases hnull : v.isNull with
      | true => simp
      | false =>
          simp only [Bool.false_eq_true, if_false, hmissing]
          by_cases h₁ : g₁.missing c = []
          · by_cases h₂ : g₂.missing c = [] <;> simp [h₁, h₂]
          · simp [h₁]

end Group

namespace Operation

variable {e : Entity} {o o₁ o₂ : Operation}

structure Keeping (entity : String) (o : Operation) : Prop where
  kind_ne : o.kind ≠ .activator
  draws : ∀ c ∈ o.calls, c.modifier.Draws
  keeps : o.kind = .processor → ∀ c ∈ o.calls, c.KeepsValues entity o.target

theorem Keeping.requiresTarget {entity : String} (h : o.Keeping entity) :
    o.requiresTarget = true :=
  requiresTarget_iff.mpr h.kind_ne

def byItself (e : Entity) (o : Operation) : Run Unit := do
  let admitted ← o.alone.admits e
  runAll e admitted [o]

theorem exec_byItself (o : Operation) (s : Session) : exec (o.byItself e) s =
    match o.alone.answer e s.context with
    | .ok true => exec (o.run e) s
    | .ok false => (.ok (), s)
    | .error f => (.error f, s) := by
  unfold byItself
  rw [exec_bind, Group.exec_admits]
  rcases o.alone.answer e s.context with f | _ | _
  · rfl
  · rfl
  · exact congrArg (fun x => exec x s) (bind_pure (o.run e))

theorem answer_eq_of_run (ho : o.Keeping e.name) {s t : Session}
    (hs : s.context.Given o.target) (h : exec (o.run e) s = (.ok (), t)) {g : Group}
    (hrequire : g.requireTarget = true) (htarget : g.target = o.target) :
    g.answer e t.context = g.answer e s.context := by
  have ht := given_of_runCalls ho.kind_ne ho.draws ho.keeps hs h
  have hwrites := (writesOnly_runCalls o.kind ho.draws).writes h
  rw [← htarget] at hs ht hwrites
  exact Group.answer_eq_of_given hrequire hwrites hs ht

theorem exec_runAll_one (o : Operation) (admitted : Bool) (s : Session) :
    exec (runAll e admitted [o]) s = if admitted then exec (o.run e) s else (.ok (), s) := by
  cases admitted with
  | false => rfl
  | true => exact congrArg (fun x => exec x s) (bind_pure (o.run e))

/-- When an operation has been done under its guard, the guard still answers the same. -/
theorem answer_of_runAll (ho : o.Keeping e.name) {admitted : Bool} {s t : Session}
    (hanswer : o.alone.answer e s.context = .ok admitted)
    (h : exec (runAll e admitted [o]) s = (.ok (), t)) :
    o.alone.answer e t.context = .ok admitted := by
  rw [exec_runAll_one] at h
  cases admitted with
  | false =>
      cases h
      exact hanswer
  | true =>
      have hs := Group.given_of_answer ho.requiresTarget hanswer
      rw [answer_eq_of_run ho hs h ho.requiresTarget rfl, hanswer]

theorem agree_run_cons (hkind : o.kind ≠ .activator) (htarget₁ : o₁.target = o.target)
    (htarget₂ : o₂.target = o.target) (hkind₁ : o₁.kind = o.kind) (hkind₂ : o₂.kind = o.kind)
    {c : Call} (hcalls₁ : o₁.calls = [c]) (hcalls : o.calls = c :: o₂.calls)
    (hdraws : ∀ c ∈ o.calls, c.modifier.Draws) {s : Session}
    (hs : s.context.latest.names.Nodup) :
    Agree (exec (o.run e) s) (exec (o₁.run e >>= fun _ => o₂.run e) s) := by
  rw [hcalls, List.forall_mem_cons] at hdraws
  unfold run
  rw [hkind₁, hkind₂, htarget₁, htarget₂, hcalls, hcalls₁]
  exact (coincide_runCalls_cons hkind hdraws.1 hdraws.2 hs).agree

theorem exists_error_of_ne_ok {x : Except Failure Bool} (hx : ∀ admitted, x ≠ .ok admitted) :
    ∃ f, x = .error f := by
  cases x with
  | error f => exact ⟨f, rfl⟩
  | ok admitted => exact absurd rfl (hx admitted)

theorem agree_byItself_cons (ho₁ : o₁.Keeping e.name) (ho₂ : o₂.Keeping e.name)
    (hjoins : o.alone.Joins o₁.alone o₂.alone) (hkind₁ : o₁.kind = o.kind)
    (hkind₂ : o₂.kind = o.kind) {c : Call} (hcalls₁ : o₁.calls = [c])
    (hcalls : o.calls = c :: o₂.calls) {s : Session} (hs : s.context.latest.names.Nodup) :
    Agree (exec (o.byItself e) s) (exec (o₁.byItself e >>= fun _ => o₂.byItself e) s) := by
  have htarget₁ : o₁.target = o.target := hjoins.target₁
  have htarget₂ : o₂.target = o.target := hjoins.target₂
  have hiff := fun admitted => @Group.Joins.answer_iff e _ _ _ s.context hjoins admitted
  have hgiven : ∀ {o' : Operation}, o'.requiresTarget = true → s.context.Given o'.target →
      o'.alone.answer e s.context ≠ .ok false := by
    intro o' hrequires hgiven h
    rw [Group.answer_of_given (g := o'.alone) hrequires hgiven] at h
    split at h <;> cases h
  -- the guard of the whole fails when one of the two does, in whatever order they are asked
  rw [exec_bind, exec_byItself o, exec_byItself o₁]
  rcases h₁ : o₁.alone.answer e s.context with f₁ | _ | _
  · obtain ⟨f, hf⟩ : ∃ f, o.alone.answer e s.context = .error f :=
      exists_error_of_ne_ok fun admitted h => by
        rw [hiff, h₁] at h
        cases h.1
    rw [hf]
    exact .of_errors rfl rfl
  · dsimp only
    rw [exec_byItself o₂]
    rcases h₂ : o₂.alone.answer e s.context with f₂ | _ | _
    · obtain ⟨f, hf⟩ : ∃ f, o.alone.answer e s.context = .error f :=
        exists_error_of_ne_ok fun admitted h => by
          rw [hiff, h₂] at h
          cases h.2
      rw [hf]
      exact .of_errors rfl rfl
    · rw [(hiff false).mpr ⟨h₁, h₂⟩]
      exact .refl _
    · have hs₂ := Group.given_of_answer (g := o₂.alone) ho₂.requiresTarget h₂
      change s.context.Given o₂.target at hs₂
      rw [htarget₂, ← htarget₁] at hs₂
      exact absurd h₁ (hgiven ho₁.requiresTarget hs₂)
  · have hs₁ : s.context.Given o₁.target :=
      Group.given_of_answer (g := o₁.alone) ho₁.requiresTarget h₁
    have hlater : ∀ t, exec (o₁.run e) s = (.ok (), t) →
        o₂.alone.answer e t.context = o₂.alone.answer e s.context :=
      fun t ht => answer_eq_of_run ho₁ hs₁ ht ho₂.requiresTarget (htarget₂.trans htarget₁.symm)
    rcases h₂ : o₂.alone.answer e s.context with f₂ | _ | _
    · obtain ⟨f, hf⟩ : ∃ f, o.alone.answer e s.context = .error f :=
        exists_error_of_ne_ok fun admitted h => by
          rw [hiff, h₂] at h
          cases h.2
      rw [hf]
      dsimp only
      rcases ht : exec (o₁.run e) s with ⟨f' | _, t⟩
      · exact .of_errors rfl rfl
      · dsimp only
        rw [exec_byItself o₂, hlater t ht, h₂]
        exact .of_errors rfl rfl
    · rw [htarget₁, ← htarget₂] at hs₁
      exact absurd h₂ (hgiven ho₂.requiresTarget hs₁)
    · rw [(hiff true).mpr ⟨h₁, h₂⟩]
      dsimp only
      have hdraws : ∀ c ∈ o.calls, c.modifier.Draws := by
        rw [hcalls, List.forall_mem_cons]
        exact ⟨ho₁.draws c (by simp [hcalls₁]), ho₂.draws⟩
      refine (agree_run_cons (hkind₁ ▸ ho₁.kind_ne) htarget₁ htarget₂ hkind₁ hkind₂ hcalls₁ hcalls
        hdraws hs).trans (.of_eq ?_)
      rw [exec_bind]
      rcases ht : exec (o₁.run e) s with ⟨f' | _, t⟩
      · rfl
      · dsimp only
        rw [exec_byItself o₂, hlater t ht, h₂]

end Operation

end FieldPipeline
