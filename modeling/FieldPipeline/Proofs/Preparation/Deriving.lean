import FieldPipeline.Proofs.Modifier.Reading
import FieldPipeline.Proofs.Preparation.Application
import FieldPipeline.Proofs.Routine.Stretches

/-!
What activators derive.  The calls on a field that stand together in a routine are one stretch.
The first stretch in which a call applies gives the field its value, the one of the last call
that applies there; the later stretches find the value and yield to it.
-/

namespace FieldPipeline

open Run

namespace Record

theorem get?_erase (r : Record) (key name : String) :
    (r.erase key).get? name = if key = name then none else r.get? name := by
  induction r with
  | nil => simp [erase]
  | cons e r ih =>
      obtain ⟨first, v⟩ := e
      unfold erase at ih ⊢
      by_cases hfirst : first = key
      · subst hfirst
        by_cases hname : first = name <;> simpa [hname, get?_cons] using ih
      · rw [List.filter_cons_of_pos (by simpa using hfirst), get?_cons, get?_cons, ih]
        by_cases hname : key = name
        · subst hname
          simp [hfirst]
        · simp [hname]

theorem nodup_names_erase {r : Record} (h : r.names.Nodup) (key : String) :
    (r.erase key).names.Nodup :=
  h.sublist (List.filter_sublist.map Prod.fst)

end Record

def Context.scopeWithout (c : Context) (name : String) : Record :=
  { c with latest := c.latest.erase name }.scope

theorem Context.get?_scopeWithout {c : Context} (h : c.latest.names.Nodup) (name other : String) :
    (c.scopeWithout name).get? other =
      if name = other then c.existing.bind (·.get? other) else c.lookUp? other := by
  unfold scopeWithout
  rw [get?_scope (Record.nodup_names_erase h name)]
  unfold lookUp?
  dsimp only
  rw [Record.get?_erase]
  by_cases h : name = other
  · rw [if_pos h, if_pos h]
  · rw [if_neg h, if_neg h]

/-- Whether a call is the one that counts: it is the last that applies in its stretch, and none
applies in an earlier one. -/
def Call.Prevails (entity target : String) (scope : Record) (stretches : List (List Call))
    (c : Call) : Prop :=
  ∃ before pre post after, stretches = before ++ (pre ++ c :: post) :: after ∧
    (∀ calls ∈ before, ∀ c' ∈ calls, c'.applies entity target scope = .ok false) ∧
    (∀ c' ∈ post, c'.applies entity target scope = .ok false) ∧
    c.applies entity target scope = .ok true

theorem Call.Prevails.of_single {entity target : String} {scope : Record} {calls : List Call}
    {c : Call} (h : c.Prevails entity target scope [calls]) : ∃ pre post,
      calls = pre ++ c :: post ∧ (∀ c' ∈ post, c'.applies entity target scope = .ok false) ∧
        c.applies entity target scope = .ok true := by
  obtain ⟨before, pre, post, after, hsplit, _, hpost, hc⟩ := h
  rcases before with _ | ⟨first, before⟩
  · rw [List.nil_append, List.cons.injEq] at hsplit
    exact ⟨pre, post, hsplit.1, hpost, hc⟩
  · simp at hsplit

/-- Whether a value is the one that stretches of calls derive for a field from the other values of
a session, or there is none because no call applies. -/
def Call.Derive (entity target : String) (s : Session) (stretches : List (List Call)) :
    Option Value → Prop
  | none => ∀ calls ∈ stretches, ∀ c ∈ calls,
      Call.applies entity target (s.context.scopeWithout target) c = .ok false
  | some v => ∃ c : Call, c.Prevails entity target (s.context.scopeWithout target) stretches ∧
      ∃ readings, (exec (c.invoke entity target (s.context.scopeWithout target) [])
        { s with readings }).1 = .ok v

namespace Call.Derive

variable {entity target : String} {s : Session} {stretches : List (List Call)}
  {result : Option Value}

theorem cons_of_not_applies {calls : List Call}
    (hcalls : ∀ c ∈ calls, c.applies entity target (s.context.scopeWithout target) = .ok false)
    (h : Derive entity target s stretches result) :
    Derive entity target s (calls :: stretches) result := by
  cases result with
  | none => exact List.forall_mem_cons.mpr ⟨hcalls, h⟩
  | some v =>
      obtain ⟨c, ⟨before, pre, post, after, rfl, hbefore, hpost, hc⟩, hvalue⟩ := h
      exact ⟨c, ⟨calls :: before, pre, post, after, rfl,
        List.forall_mem_cons.mpr ⟨hcalls, hbefore⟩, hpost, hc⟩, hvalue⟩

theorem of_single {calls : List Call} {v : Value} (h : Derive entity target s [calls] (some v)) :
    Derive entity target s (calls :: stretches) (some v) := by
  obtain ⟨c, hprevails, hvalue⟩ := h
  obtain ⟨pre, post, rfl, hpost, hc⟩ := hprevails.of_single
  exact ⟨c, ⟨[], pre, post, stretches, rfl, by simp, hpost, hc⟩, hvalue⟩

theorem flatten (hone : stretches.length ≤ 1) (h : Derive entity target s stretches result) :
    Derive entity target s [stretches.flatten] result := by
  rcases stretches with _ | ⟨calls, _ | ⟨_, _⟩⟩
  · cases result with
    | none => simp [Derive]
    | some v =>
        obtain ⟨c, ⟨before, pre, post, after, hsplit, _⟩, _⟩ := h
        simp at hsplit
  · rwa [List.flatten_singleton]
  · simp at hone

end Call.Derive

namespace Operation

variable {entity target : String} {scope : Record} {calls : List Call} {s t : Session}

theorem derive?_ok {result : Option Value}
    (h : exec (derive? entity target scope calls) s = (.ok result, t)) :
    result = none ∧ (∀ c ∈ calls, c.applies entity target scope = .ok false) ∨
    ∃ v pre c post, result = some v ∧ calls = pre ++ c :: post ∧
      (∀ c' ∈ pre, c'.applies entity target scope = .ok false) ∧
      c.applies entity target scope = .ok true ∧
      (exec (c.invoke entity target scope []) s).1 = .ok v := by
  induction calls with
  | nil =>
      cases h
      exact .inl ⟨rfl, by simp⟩
  | cons c calls ih =>
      unfold derive? at h
      rw [exec_bind, exec_ofExcept] at h
      cases happlies : c.applies entity target scope with
      | error f =>
          rw [happlies] at h
          cases h
      | ok applies =>
          rw [happlies] at h
          cases applies with
          | true =>
              dsimp only at h
              rw [if_pos rfl, exec_bind_eq_ok] at h
              obtain ⟨v, t', hinvoke, h⟩ := h
              cases h
              exact .inr ⟨v, [], c, calls, rfl, rfl, by simp, happlies, by rw [hinvoke]⟩
          | false =>
              rcases ih h with ⟨hnone, hrest⟩ | ⟨v, pre, c', post, hv, rfl, hpre, hc', hvalue⟩
              · exact .inl ⟨hnone, List.forall_mem_cons.mpr ⟨happlies, hrest⟩⟩
              · exact .inr ⟨v, c :: pre, c', post, hv, rfl,
                  List.forall_mem_cons.mpr ⟨happlies, hpre⟩, hc', hvalue⟩

theorem runCalls_activator_ok (hdraws : ∀ c ∈ calls, c.modifier.Draws)
    (h : exec (runCalls entity target .activator calls) s = (.ok (), t)) :
    (∀ c ∈ calls, c.applies entity target s.context.scope = .ok false) ∧ t.context = s.context ∨
    ∃ pre c post v, calls = pre ++ c :: post ∧
      (∀ c' ∈ post, c'.applies entity target s.context.scope = .ok false) ∧
      c.applies entity target s.context.scope = .ok true ∧
      (exec (c.invoke entity target s.context.scope []) s).1 = .ok v ∧
      t.context.latest.get? target = some v := by
  unfold runCalls at h
  rw [exec_bind_of_ok (exec_context s)] at h
  dsimp only at h
  rw [exec_bind_eq_ok] at h
  obtain ⟨result, u, hderive, h⟩ := h
  have hcontext : u.context = s.context := by
    have hreverse : ∀ c ∈ calls.reverse, c.modifier.Draws := by simpa using hdraws
    have hkeeps := (@draws_derive? entity target _ hreverse s.context.scope).context_eq s
    rwa [hderive] at hkeeps
  rcases derive?_ok hderive with ⟨rfl, hnone⟩ | ⟨v, post, c, pre, rfl, hcalls, hpost, hc, hvalue⟩
  · cases h
    exact .inl ⟨by simpa using hnone, hcontext⟩
  · cases h
    refine .inr ⟨pre.reverse, c, post.reverse, v, ?_, by simpa using hpost, hc, hvalue, ?_⟩
    · simpa using congrArg List.reverse hcalls
    · exact Record.get?_put_self _ _ _

end Operation

/-- Whether a group is one operation of activators, which read, besides what the group requires
and its own field, only what is free for all. -/
structure Group.Activates (free : String → Prop) (g : Group) : Prop where
  requireTarget_eq : g.requireTarget = false
  single : ∃ o, g.operations = [o] ∧ o.kind = .activator
  kind_eq : ∀ o ∈ g.operations, ∀ c ∈ o.calls, c.modifier.kind = .activator
  formulas : ∀ o ∈ g.operations, ∀ c ∈ o.calls, c.modifier.ReadsFormulas ∧ c.Literal
  reads : ∀ o ∈ g.operations, ∀ c ∈ o.calls, ∀ name ∈ c.reads,
    name ∈ g.requiredFields ∨ name = g.target ∨ free name

namespace Group

variable {e : Entity} {g : Group} {free : String → Prop} {s t u : Session}

theorem exec_runCalls_of_apply {o : Operation} (hoperations : g.operations = [o])
    (hrequire : g.requireTarget = false) (hmode : s.context.mode = some .create)
    (habsent : s.context.latest.has g.target = false)
    (h : exec (g.apply e) s = (.ok (), t)) :
    exec (Operation.runCalls e.name g.target o.kind o.calls) s = (.ok (), t) := by
  have hverdict : g.verdict e s.context = .run := by
    unfold verdict
    rw [hrequire, habsent, hmode]
    rfl
  unfold apply at h
  rw [exec_bind_of_ok (exec_context s), hverdict] at h
  dsimp only at h
  split at h
  · rw [hoperations, exec_forM_cons, exec_bind_eq_ok] at h
    obtain ⟨_, u, hrun, h⟩ := h
    cases h
    exact hrun
  · cases h

theorem exec_apply_of_has (hrequire : g.requireTarget = false)
    (hhas : s.context.latest.has g.target = true) : exec (g.apply e) s = (.ok (), s) := by
  have hverdict : g.verdict e s.context = .skip := by
    unfold verdict
    rw [hrequire, hhas]
    rfl
  unfold apply
  rw [exec_bind_of_ok (exec_context s), hverdict]
  rfl

theorem agreeOn_scopeWithout (hactivates : g.Activates free) (hs : s.context.latest.names.Nodup)
    (hwrites : Session.Writes (fun name => name = g.target ∨
      name ∉ g.requiredFields ∧ ¬free name) s u)
    (habsent : s.context.latest.has g.target = false) {o : Operation} (ho : o ∈ g.operations)
    {c : Call} (hc : c ∈ o.calls) :
    Expression.AgreeOn c.reads s.context.scope (u.context.scopeWithout g.target) := by
  intro name hname
  rw [Context.get?_scope hs, Context.get?_scopeWithout (hwrites.nodup hs)]
  by_cases htarget : g.target = name
  · subst htarget
    rw [if_pos rfl, hwrites.existing, Context.lookUp?, (Record.get?_eq_none_iff _ _).mpr habsent]
  · rw [if_neg htarget]
    refine (hwrites.lookUp? ?_).symm
    rintro (hsame | ⟨hunread, hbusy⟩)
    · exact htarget hsame.symm
    · rcases hactivates.reads o ho c hc name hname with hread | hsame | hfree
      · exact hunread hread
      · exact htarget hsame.symm
      · exact hbusy hfree

theorem applies_and_invoke_congr (hactivates : g.Activates free) {scope scope' : Record}
    {o : Operation} (ho : o ∈ g.operations) {c : Call} (hc : c ∈ o.calls)
    (h : Expression.AgreeOn c.reads scope scope') (entity target : String) :
    c.applies entity target scope = c.applies entity target scope' ∧
      c.invoke entity target scope [] = c.invoke entity target scope' [] := by
  obtain ⟨hformulas, hliteral⟩ := hactivates.formulas o ho c hc
  exact ⟨Call.applies_congr h entity target, Call.invoke_congr hformulas hliteral h entity target []
    (by rw [hactivates.kind_eq o ho c hc]; rfl)⟩

/-- A creation runs activators on a field that has no value.  Either none of them applies and
nothing changes, or the last that applies gives the value; both are seen from the values of any
later session in which what they read is what it was. -/
theorem derive_apply_ok (hdraws : ∀ o ∈ g.operations, ∀ c ∈ o.calls, c.modifier.Draws)
    (hactivates : g.Activates free) (hs : s.context.latest.names.Nodup)
    (hmode : s.context.mode = some .create) (habsent : s.context.latest.has g.target = false)
    (hwrites : Session.Writes (fun name => name = g.target ∨
      name ∉ g.requiredFields ∧ ¬free name) s u) (h : exec (g.apply e) s = (.ok (), t)) :
    (∀ c ∈ g.operations.flatMap (·.calls),
      c.applies e.name g.target (u.context.scopeWithout g.target) = .ok false) ∧
      t.context = s.context ∨
    ∃ v, t.context.latest.get? g.target = some v ∧
      Call.Derive e.name g.target u [g.operations.flatMap (·.calls)] (some v) := by
  obtain ⟨o, hoperations, hkind⟩ := hactivates.single
  have ho : o ∈ g.operations := by simp [hoperations]
  have hrun := exec_runCalls_of_apply hoperations hactivates.requireTarget_eq hmode habsent h
  have hcongr : ∀ c ∈ o.calls,
      c.applies e.name g.target s.context.scope =
        c.applies e.name g.target (u.context.scopeWithout g.target) ∧
      c.invoke e.name g.target s.context.scope [] =
        c.invoke e.name g.target (u.context.scopeWithout g.target) [] := fun c hc =>
    applies_and_invoke_congr hactivates ho hc
      (agreeOn_scopeWithout hactivates hs hwrites habsent ho hc) e.name g.target
  rw [hkind] at hrun
  rw [hoperations, List.flatMap_singleton]
  rcases Operation.runCalls_activator_ok (hdraws o ho) hrun with
    ⟨hnone, hcontext⟩ | ⟨pre, c, post, v, hcalls, hpost, hc, hvalue, hget⟩
  · refine .inl ⟨fun c hc => ?_, hcontext⟩
    rw [← (hcongr c hc).1]
    exact hnone c hc
  · have hmem : c ∈ o.calls := by simp [hcalls]
    refine .inr ⟨v, hget, c,
      ⟨[], pre, post, [], by rw [hcalls]; rfl, by simp, fun c' hc' => ?_, ?_⟩, s.readings, ?_⟩
    · rw [← (hcongr c' (by simp [hcalls, hc'])).1]
      exact hpost c' hc'
    · rw [← (hcongr c hmem).1]
      exact hc
    · have hdrawn : Run.Draws (c.invoke e.name g.target s.context.scope []) :=
        c.draws_invoke (hdraws o ho c hmem) _ _ _ _
      rw [← (hcongr c hmem).2, hdrawn.fst_exec_of_readings hwrites.settings hwrites.sources]
      exact hvalue

end Group

theorem Routine.get?_of_has {e : Entity} {target : String} {v : Value} {groups : List Group}
    (hdraws : ∀ g ∈ groups, ∀ o ∈ g.operations, ∀ c ∈ o.calls, c.modifier.Draws)
    (hrequire : ∀ g ∈ groups, g.target = target → g.requireTarget = false) {s u : Session}
    (hvalue : s.context.latest.get? target = some v)
    (h : exec (groups.forM (Group.apply e)) s = (.ok (), u)) :
    u.context.latest.get? target = some v := by
  refine exec_forM_ok_induct (P := fun t => t.context.latest.get? target = some v) ?_ hvalue h
  intro g hg t t' ht happly
  by_cases htarget : g.target = target
  · have hhas : t.context.latest.has g.target = true :=
      htarget ▸ Record.has_of_get?_eq_some ht
    rw [Group.exec_apply_of_has (hrequire g hg htarget) hhas] at happly
    cases happly
    exact ht
  · have hwrites := (Group.writesOnly_apply (e := e) (hdraws g hg)).writes happly
    rw [hwrites.latest target fun h => htarget h.symm]
    exact ht

theorem Routine.derive_groups {e : Entity} {target : String} {free : String → Prop}
    {groups : List Group}
    (hdraws : ∀ g ∈ groups, ∀ o ∈ g.operations, ∀ c ∈ o.calls, c.modifier.Draws)
    (hlater : groups.Pairwise fun g g' => g'.target ∉ g.requiredFields)
    (hfree : ∀ g ∈ groups, ¬free g.target)
    (hactivates : ∀ g ∈ groups, g.target = target → g.Activates free) {s u : Session}
    (hs : s.context.latest.names.Nodup) (hmode : s.context.mode = some .create)
    (habsent : s.context.latest.has target = false)
    (h : exec (groups.forM (Group.apply e)) s = (.ok (), u)) :
    Call.Derive e.name target u (Group.stretches target groups)
      (u.context.latest.get? target) := by
  -- as long as the field has no value, each group is met as the first one was
  induction groups generalizing s with
  | nil =>
      cases h
      rw [(Record.get?_eq_none_iff _ _).mpr habsent]
      simp [Call.Derive, Group.stretches]
  | cons g groups ih =>
      rw [exec_forM_cons, exec_bind_eq_ok] at h
      obtain ⟨_, t, hg, hrest⟩ := h
      rw [List.pairwise_cons] at hlater
      rw [List.forall_mem_cons] at hdraws hfree hactivates
      have hwrites : Session.Writes (· = g.target) s t :=
        (Group.writesOnly_apply hdraws.1).writes hg
      have hwritesRest : Session.Writes (fun name => ∃ g' ∈ groups, name = g'.target) t u :=
        (writesOnly_groups hdraws.2).writes hrest
      have hderive := fun habsent' => ih hdraws.2 hlater.2 hfree.2 hactivates.2 (hwrites.nodup hs)
        (hwrites.mode.trans hmode) habsent' hrest
      by_cases htarget : g.target = target
      · subst htarget
        have hsettled : Session.Writes (fun name => name = g.target ∨
            name ∉ g.requiredFields ∧ ¬free name) s u := by
          refine (hwrites.mono fun _ => .inl).trans (hwritesRest.mono ?_)
          rintro name ⟨g', hg', rfl⟩
          exact .inr ⟨hlater.1 g' hg', hfree.2 g' hg'⟩
        rw [Group.stretches_cons_of_eq]
        rcases Group.derive_apply_ok hdraws.1 (hactivates.1 rfl) hs hmode habsent hsettled hg with
          ⟨hnone, hcontext⟩ | ⟨v, hget, hvalue⟩
        · exact .cons_of_not_applies hnone (hderive (hcontext ▸ habsent))
        · rw [Routine.get?_of_has hdraws.2
            (fun g' hg' htarget' => (hactivates.2 g' hg' htarget').requireTarget_eq) hget hrest]
          exact hvalue.of_single
      · rw [Group.stretches_cons_of_ne htarget]
        exact hderive ((hwrites.has fun h => htarget h.symm).trans habsent)

end FieldPipeline
