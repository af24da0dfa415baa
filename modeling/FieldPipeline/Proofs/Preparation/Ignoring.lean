import FieldPipeline.Proofs.Modifier.Reading
import FieldPipeline.Proofs.Preparation.Spreading
import FieldPipeline.Proofs.Routine.Settling

/-!
Steps of an update for which it makes no difference whether the record before the update is known.
A step consults the record when it comes upon a value that only the record has; a step that does
not consult it does the same with and without it.
-/

namespace FieldPipeline

open Run Expression

def Session.loaded (former : Record) (s : Session) : Session :=
  { s with context := { s.context with existing := some former } }

theorem Session.lookUp?_loaded {former : Record} {s : Session} (hnone : s.context.existing = none)
    {name : String} (h : former.has name = true → s.context.latest.has name = true) :
    (s.loaded former).context.lookUp? name = s.context.lookUp? name := by
  have hlatest : (s.loaded former).context.latest = s.context.latest := rfl
  have hexisting : (s.loaded former).context.existing = some former := rfl
  unfold Context.lookUp?
  rw [hlatest, hexisting, hnone]
  cases hget : s.context.latest.get? name with
  | some v => rfl
  | none =>
      have hlacks := (Record.get?_eq_none_iff _ _).mp hget
      cases hhas : former.has name with
      | true =>
          rw [h hhas] at hlacks
          cases hlacks
      | false => exact (Record.get?_eq_none_iff _ _).mpr hhas

namespace Run

variable {α β : Type} {former : Record} {s : Session}

/-- Whether a computation does the same when the record before an update is known. -/
def Ignores (former : Record) (x : Run α) (s : Session) : Prop :=
  exec x (s.loaded former) = ((exec x s).1, (exec x s).2.loaded former)

namespace Ignores

theorem pure (a : α) : Ignores former (Pure.pure a : Run α) s := rfl

theorem reject (entity : String) (cause : RejectionCause) :
    Ignores former (Run.reject entity cause : Run α) s := rfl

theorem setLatest (name : String) (v : Value) : Ignores former (Run.setLatest name v) s := rfl

theorem ofDraws {x : Run α} (hx : Draws x) : Ignores former x s := by
  unfold Ignores Session.loaded
  rw [hx.exec_withContext, hx.context_eq]

theorem bind {x : Run α} {f : α → Run β} (hx : Ignores former x s)
    (hf : ∀ a t, exec x s = (.ok a, t) → Ignores former (f a) t) :
    Ignores former (x >>= f) s := by
  unfold Ignores at hx ⊢
  rw [exec_bind, exec_bind, hx]
  rcases h : exec x s with ⟨e | a, t⟩
  · rfl
  · exact hf a t h

theorem bind_context {f : Context → Run β} (hsame : f (s.loaded former).context = f s.context)
    (hf : Ignores former (f s.context) s) : Ignores former (Run.context >>= f) s := by
  unfold Ignores at hf ⊢
  rw [exec_bind_of_ok (exec_context _), exec_bind_of_ok (exec_context _), hsame]
  exact hf

theorem forM {f : α → Run Unit} {l : List α}
    (hf : ∀ before a after t, l = before ++ a :: after →
      exec (before.forM f) s = (.ok (), t) → Ignores former (f a) t) :
    Ignores former (l.forM f) s := by
  induction l generalizing s with
  | nil => rfl
  | cons a l ih =>
      refine bind (hf [] a l s rfl rfl) fun _ t ht => ih ?_
      intro before b after u hl hbefore
      refine hf (a :: before) b after u (by rw [hl]; rfl) ?_
      rw [exec_forM_cons, exec_bind_of_ok ht]
      exact hbefore

theorem of_exec_eq {x y : Run α} (h : ∀ s, exec x s = exec y s) (hy : Ignores former y s) :
    Ignores former x s := by
  unfold Ignores at hy ⊢
  rw [h, h, hy]

end Ignores

end Run

def Field.Consults (former raw : Record) (f : Field) : Prop :=
  f.writeOnce = true ∧ f.forceUpdate = true ∧ f.updateByStore = false ∧
    raw.has f.name = false ∧ (former.getOrNull f.name).isNull = false

namespace Preparation

variable {equipment : Equipment} {e : Entity} {former : Record} {s : Session} {f : Field}

theorem isSettled_of_none (hnone : s.context.existing = none) (f : Field) :
    isSettled s.context f = false := by
  unfold isSettled
  rw [Context.former_of_existing_eq_none hnone]
  simp [Value.isNull]

theorem ignores_fillGenerated (hdraws : ∀ g ∈ equipment.generators, g.Draws) :
    Ignores former (fillGenerated equipment e f) s := by
  refine .bind (.bind_context rfl ?_) fun v t _ => .setLatest _ _
  exact .ofDraws (.explain (f.draws_generate hdraws _) _)

theorem ignores_fillGiven {mode : Mode} (honce : mode = .update → f.writeOnce = false) (v : Value) :
    Ignores former (fillGiven e mode f v) s := by
  refine .bind_context ?_ ?_
  · cases mode with
    | create => rfl
    | update =>
        unfold isSettled
        rw [honce rfl]
        rfl
  · split
    · exact .reject _ _
    · split
      · exact .reject _ _
      · split
        · split
          · exact .setLatest _ _
          · exact .reject _ _
        · exact .bind (.ofDraws .settings) fun _ _ _ =>
            .bind (.ofDraws (.ofExcept _)) fun _ _ _ => .setLatest _ _

theorem ignores_fillOnUpdate (hdraws : ∀ g ∈ equipment.generators, g.Draws)
    (hnone : s.context.existing = none) (hraw : s.context.raw.has f.name = false)
    (hconsults : ¬f.Consults former s.context.raw) :
    Ignores former (fillOnUpdate equipment e f) s := by
  refine .bind_context ?_ ?_
  · rw [isSettled_of_none hnone]
    cases hsettled : isSettled (s.loaded former).context f with
    | false => rfl
    | true =>
        unfold isSettled at hsettled
        simp only [Bool.and_eq_true, Bool.not_eq_true'] at hsettled
        have hkept : (!f.forceUpdate || f.updateByStore) = true := by
          by_contra hforced
          simp only [Bool.not_eq_true, Bool.or_eq_false_iff, Bool.not_eq_false'] at hforced
          exact hconsults ⟨hsettled.1, hforced.1, hforced.2, hraw, hsettled.2⟩
        rw [Bool.true_or, Bool.true_or, Bool.false_or, hkept]
  · split
    · exact .pure _
    · split
      · exact ignores_fillGenerated hdraws
      · exact .reject _ _

theorem ignores_fill (h : e.Sound) (hdraws : ∀ g ∈ equipment.generators, g.Draws)
    (hnone : s.context.existing = none) (htouches : touchesWriteOnce e s.context.raw = false)
    (hconsults : ∀ f ∈ e.fields, ¬f.Consults former s.context.raw) :
    Ignores former (fill equipment e .update) s := by
  unfold fill
  refine .bind_context rfl (.bind ?_ fun _ t ht => .forM ?_)
  · unfold warnOfUnknown
    dsimp only
    split
    · exact .pure _
    · rfl
  · intro before f after u hl hu
    have hf : f ∈ e.fields := by rw [hl]; simp
    have hwarned : Session.Writes (fun _ => True) s t :=
      (writesOnly_warnOfUnknown s.context.raw).writes ht
    have hfilled : Session.Writes (fun _ => True) t u := (WritesOnly.forM fun g _ =>
      (writesOnly_fillField hdraws).mono fun _ _ => trivial).writes hu
    have hwrites := hwarned.trans hfilled
    have hraw : u.context.raw = s.context.raw := hwrites.raw
    have hnone' : u.context.existing = none := hwrites.existing.trans hnone
    unfold fillField
    refine .bind_context rfl ?_
    cases hget : u.context.raw.get? f.name with
    | some v =>
        refine ignores_fillGiven (fun _ => ?_) v
        by_contra honce
        have hname : f.name ∈ s.context.raw.names := by
          rw [← Record.has_eq_true_iff_mem_names, ← hraw]
          unfold Record.has
          rw [hget]
          rfl
        unfold touchesWriteOnce at htouches
        rw [List.any_eq_false] at htouches
        refine htouches f.name hname ?_
        rw [h.field?_eq hf]
        simpa using honce
    | none =>
        refine ignores_fillOnUpdate hdraws hnone' ?_ (hraw ▸ hconsults f hf)
        unfold Record.has
        rw [hget]
        rfl

end Preparation

structure Call.Regular (kind : ModifierKind) (c : Call) : Prop where
  kind_eq : c.modifier.kind = kind
  draws : c.modifier.Draws
  readsFormulas : c.modifier.ReadsFormulas
  literal : c.Literal

namespace Operation

variable {entity target : String} {calls : List Call} {scope scope' : Record}

theorem validate_congr (hcalls : ∀ c ∈ calls, c.Regular .validator)
    (h : ∀ c ∈ calls, AgreeOn c.reads scope scope') (v : Value) :
    validate entity target scope v calls = validate entity target scope' v calls := by
  induction calls with
  | nil => rfl
  | cons c calls ih =>
      have hc := hcalls c (by simp)
      have hinvoke := Call.invoke_congr hc.readsFormulas hc.literal (h c (by simp)) entity target
        [v] (by rw [hc.kind_eq]; rfl)
      rw [validate, validate, hinvoke, ih (fun c hc => hcalls c (by simp [hc]))
        fun c hc => h c (by simp [hc])]

theorem process_congr (hcalls : ∀ c ∈ calls, c.Regular .processor)
    (h : ∀ c ∈ calls, AgreeOn c.reads scope scope') (v : Value) :
    process entity target scope v calls = process entity target scope' v calls := by
  induction calls generalizing scope scope' v with
  | nil => rfl
  | cons c calls ih =>
      have hc := hcalls c (by simp)
      have hinvoke := Call.invoke_congr hc.readsFormulas hc.literal (h c (by simp)) entity target
        [v] (by rw [hc.kind_eq]; rfl)
      rw [process, process, hinvoke]
      congr 1
      funext result
      refine ih (fun c hc => hcalls c (by simp [hc])) (fun c hc name hname => ?_) result
      rw [Record.get?_put, Record.get?_put, h c (by simp [hc]) name hname]

theorem derive?_congr (hcalls : ∀ c ∈ calls, c.Regular .activator)
    (h : ∀ c ∈ calls, AgreeOn c.reads scope scope') :
    derive? entity target scope calls = derive? entity target scope' calls := by
  induction calls with
  | nil => rfl
  | cons c calls ih =>
      have hc := hcalls c (by simp)
      have hagree := h c (by simp)
      have hinvoke := Call.invoke_congr hc.readsFormulas hc.literal hagree entity target
        [] (by rw [hc.kind_eq]; rfl)
      rw [derive?, derive?, hinvoke, Call.applies_congr hagree,
        ih (fun c hc => hcalls c (by simp [hc])) fun c hc => h c (by simp [hc])]

theorem ignores_runCalls {kind : ModifierKind} (hcalls : ∀ c ∈ calls, c.Regular kind)
    {former : Record} {s : Session}
    (h : ∀ c ∈ calls, AgreeOn c.reads (s.loaded former).context.scope s.context.scope) :
    Ignores former (runCalls entity target kind calls) s := by
  have hdraws : ∀ c ∈ calls, c.modifier.Draws := fun c hc => (hcalls c hc).draws
  cases kind with
  | validator =>
      refine .bind_context (validate_congr hcalls h _) ?_
      exact .ofDraws (draws_validate hdraws _ _)
  | processor =>
      refine .bind_context ?_ ?_
      · dsimp only
        rw [process_congr hcalls h]
        rfl
      · exact .bind (.ofDraws (draws_process hdraws _ _)) fun _ _ _ => .setLatest _ _
  | activator =>
      have hreverse : ∀ c ∈ calls.reverse, c.Regular .activator := by simpa using hcalls
      refine .bind_context ?_ ?_
      · dsimp only
        rw [derive?_congr hreverse (by simpa using h)]
      · refine .bind (.ofDraws (draws_derive? (by simpa using hdraws) _)) fun derived _ _ => ?_
        cases derived with
        | none => exact .pure _
        | some v => exact .setLatest _ _

end Operation

theorem Operation.exec_runCalls_of_not_applies {entity target : String} {calls : List Call}
    {s : Session} (h : ∀ c ∈ calls, c.applies entity target s.context.scope = .ok false) :
    exec (runCalls entity target .activator calls) s = (.ok (), s) := by
  have hderive : ∀ cs : List Call, (∀ c ∈ cs, c.applies entity target s.context.scope = .ok false) →
      exec (derive? entity target s.context.scope cs) s = (.ok none, s) := by
    intro cs hcs
    induction cs with
    | nil => rfl
    | cons c cs ih =>
        rw [derive?, hcs c (by simp)]
        exact ih fun c hc => hcs c (by simp [hc])
  unfold runCalls
  rw [exec_bind_of_ok (exec_context s)]
  dsimp only
  rw [exec_bind_of_ok (hderive _ fun c hc => h c (by simpa using hc))]
  rfl

namespace Group

def Idle (e : Entity) (c : Context) (g : Group) : Prop :=
  ∀ o ∈ g.operations, ∀ call ∈ o.calls, call.applies e.name g.target c.scope = .ok false

/-- Whether a group comes upon a value that only the record before an update has: the value of a
target that is written once, or one that the group needs or that one of its calls reads. -/
def Consults (e : Entity) (former : Record) (c : Context) (g : Group) : Prop :=
  g.verdict e c = .run ∧
    (g.requireTarget = false ∧ e.Settled (some former) g.target ∧
        ¬(g.missing c = [] ∧ g.Idle e c) ∨
      ∃ name, former.has name = true ∧ c.latest.has name = false ∧
        (name ∈ g.requiredFields ∨ ∃ o ∈ g.operations, ∃ call ∈ o.calls, name ∈ call.reads))

variable {e : Entity} {former : Record} {s : Session} {g : Group}

theorem exec_operations_of_idle (hactivators : ∀ o ∈ g.operations, o.kind = .activator)
    (h : g.Idle e s.context) :
    exec (g.operations.forM fun o => Operation.runCalls e.name g.target o.kind o.calls) s =
      (.ok (), s) := by
  unfold Idle at h
  generalize g.operations = operations at hactivators h
  induction operations with
  | nil => rfl
  | cons o operations ih =>
      rw [exec_forM_cons, hactivators o (by simp),
        exec_bind_of_ok (Operation.exec_runCalls_of_not_applies (h o (by simp)))]
      exact ih (fun o ho => hactivators o (by simp [ho])) fun o ho => h o (by simp [ho])

theorem verdict_ne_demandTarget (hrequire : g.requireTarget = false) (e : Entity) (c : Context) :
    g.verdict e c ≠ .demandTarget := by
  unfold verdict
  rw [hrequire]
  simp only [Bool.false_eq_true, if_false]
  split_ifs <;> simp

theorem verdict_of_settled (hmode : s.context.mode = some .update)
    (hrequire : g.requireTarget = false) (hsettled : e.Settled (some former) g.target) :
    g.verdict e (s.loaded former).context = .skip := by
  obtain ⟨honce, hvalue⟩ := (e.settled_iff (s.loaded former).context g.target).mp hsettled
  have hmode' : (s.loaded former).context.mode = some .update := hmode
  unfold verdict
  simp only [hrequire, honce, hvalue, hmode', Bool.false_eq_true, if_false, decide_true, if_true,
    Bool.not_false, Bool.and_self, ite_self]

theorem verdict_loaded (hnone : s.context.existing = none)
    (h : ¬(g.requireTarget = false ∧ e.Settled (some former) g.target)) :
    g.verdict e (s.loaded former).context = g.verdict e s.context := by
  have hformer : (s.context.former g.target).isNull = true := by
    rw [Context.former_of_existing_eq_none hnone]
    rfl
  cases hrequire : g.requireTarget with
  | true =>
      unfold verdict
      rw [hrequire]
      rfl
  | false =>
      have hfree : ((e.field? g.target).any (·.writeOnce) &&
          !((s.loaded former).context.former g.target).isNull) = false := by
        by_contra hne
        simp only [Bool.not_eq_false, Bool.and_eq_true, Bool.not_eq_true'] at hne
        exact h ⟨hrequire, (e.settled_iff (s.loaded former).context g.target).mpr hne⟩
      unfold verdict
      simp only [hrequire, hfree, hformer, Bool.false_eq_true, if_false, Bool.not_true,
        Bool.and_false]
      rfl

theorem ignores_apply_of_settled (hactivators : ∀ o ∈ g.operations, o.kind = .activator)
    (hmode : s.context.mode = some .update) (hrequire : g.requireTarget = false)
    (hsettled : e.Settled (some former) g.target) (h : ¬g.Consults e former s.context) :
    Ignores former (g.apply e) s := by
  have hskipped : exec (g.apply e) (s.loaded former) = (.ok (), s.loaded former) := by
    unfold apply
    rw [exec_bind_of_ok (exec_context _), verdict_of_settled hmode hrequire hsettled]
    rfl
  have hunchanged : exec (g.apply e) s = (.ok (), s) := by
    cases hverdict : g.verdict e s.context with
    | skip =>
        unfold apply
        rw [exec_bind_of_ok (exec_context _), hverdict]
        rfl
    | demandTarget => exact absurd hverdict (verdict_ne_demandTarget hrequire e s.context)
    | run =>
        have hidle : g.missing s.context = [] ∧ g.Idle e s.context := by
          by_contra hnot
          exact h ⟨hverdict, .inl ⟨hrequire, hsettled, hnot⟩⟩
        rw [exec_apply_of_run hverdict hidle.1]
        exact exec_operations_of_idle hactivators hidle.2
  unfold Ignores
  rw [hskipped, hunchanged]

theorem missing_loaded (hnone : s.context.existing = none)
    (h : ∀ name ∈ g.requiredFields, former.has name = true → s.context.latest.has name = true) :
    g.missing (s.loaded former).context = g.missing s.context := by
  unfold missing
  refine List.filter_congr fun name hname => ?_
  rw [Session.lookUp?_loaded hnone (h name hname)]

theorem ignores_apply_of_verdict (hregular : ∀ o ∈ g.operations, ∀ c ∈ o.calls, c.Regular o.kind)
    (hnone : s.context.existing = none) (hnodup : s.context.latest.names.Nodup)
    (hloaded : g.verdict e (s.loaded former).context = g.verdict e s.context)
    (h : g.verdict e s.context = .run → ∀ name, former.has name = true →
      (name ∈ g.requiredFields ∨ ∃ o ∈ g.operations, ∃ call ∈ o.calls, name ∈ call.reads) →
      s.context.latest.has name = true) :
    Ignores former (g.apply e) s := by
  unfold apply
  cases hverdict : g.verdict e s.context with
  | skip =>
      refine .bind_context ?_ ?_
      · rw [hloaded, hverdict]
      · rw [hverdict]
        exact .pure _
  | demandTarget =>
      refine .bind_context ?_ ?_
      · rw [hloaded, hverdict]
      · rw [hverdict]
        exact .reject _ _
  | run =>
      refine .bind_context ?_ ?_
      · rw [hloaded, hverdict,
          missing_loaded hnone fun name hname hhas => h hverdict name hhas (.inl hname)]
      · rw [hverdict]
        dsimp only
        cases hmissing : g.missing s.context with
        | cons _ _ => exact .reject _ _
        | nil =>
            refine .forM fun before o after t hl hbefore => ?_
            have hmem : ∀ o' ∈ before ++ [o], o' ∈ g.operations := by
              intro o' ho'
              rw [hl]
              simp only [List.mem_append, List.mem_cons] at ho' ⊢
              tauto
            have hwrites := (Operation.writesOnly_forM e.name g.target fun o' ho' c hc =>
              (hregular o' (hmem o' (List.mem_append_left _ ho')) c hc).draws).writes hbefore
            have ho := hmem o (by simp)
            -- what was there before the first operation is there before each of them
            refine Operation.ignores_runCalls (hregular o ho) fun c hc name hname => ?_
            have hnodup' : (t.loaded former).context.latest.names.Nodup := hwrites.nodup hnodup
            rw [Context.get?_scope hnodup', Context.get?_scope (hwrites.nodup hnodup)]
            refine Session.lookUp?_loaded (hwrites.existing.trans hnone) fun hhas => ?_
            exact hwrites.grows name (h hverdict name hhas (.inr ⟨o, ho, c, hc, hname⟩))

theorem ignores_apply (hregular : ∀ o ∈ g.operations, ∀ c ∈ o.calls, c.Regular o.kind)
    (hactivators : g.requireTarget = false → ∀ o ∈ g.operations, o.kind = .activator)
    (hmode : s.context.mode = some .update) (hnone : s.context.existing = none)
    (hnodup : s.context.latest.names.Nodup) (h : ¬g.Consults e former s.context) :
    Ignores former (g.apply e) s := by
  by_cases hsettled : g.requireTarget = false ∧ e.Settled (some former) g.target
  · exact ignores_apply_of_settled (hactivators hsettled.1) hmode hsettled.1 hsettled.2 h
  refine ignores_apply_of_verdict hregular hnone hnodup (verdict_loaded hnone hsettled) ?_
  intro hrun name hhas hsought
  by_contra hlacks
  exact h ⟨hrun, .inr ⟨name, hhas, by simpa using hlacks, hsought⟩⟩

end Group

end FieldPipeline
