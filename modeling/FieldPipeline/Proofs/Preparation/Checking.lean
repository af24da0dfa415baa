import FieldPipeline.Proofs.Preparation.Updating
import FieldPipeline.Proofs.Routine.Grouping

/-!
What a preparation makes sure of when the last use on a field is a validator: a value of the field
was accepted together with the values of the fields that the validator reads, and an update that
leaves the field alone leaves these alone as well.
-/

namespace FieldPipeline

open Run

def Call.Accepts (entity target : String) (r : Record) (s : Session) (c : Call) : Prop :=
  ∃ accepted, (exec (c.invoke entity target r [r.getOrNull target]) s).1 = .ok accepted ∧
    accepted.isTrue = true

structure Token.Checked (entity : String) (t : Token) (c : Context) : Prop where
  accepted : (c.latest.getOrNull t.target).isNull = false →
    (∀ name ∈ t.references, (c.lookUp? name).isSome = true) ∧
      ∃ scope s, t.call.Accepts entity t.target scope s ∧
        ∀ name ∈ t.target :: t.references, scope.get? name = c.lookUp? name
  untouched : c.mode = some .update → c.latest.has t.target = false →
    ∀ name ∈ t.references, c.latest.has name = false

theorem Token.Checked.of_writes {entity : String} {t : Token} {written : String → Prop}
    {s u : Session} (h : t.Checked entity s.context) (hwrites : Session.Writes written s u)
    (hnot : ∀ name ∈ t.target :: t.references, ¬written name) : t.Checked entity u.context := by
  have htarget := hnot t.target (by simp)
  have hlookUp : ∀ name ∈ t.target :: t.references,
      u.context.lookUp? name = s.context.lookUp? name :=
    fun name hname => hwrites.lookUp? (hnot name hname)
  constructor
  · intro hvalue
    unfold Record.getOrNull at hvalue
    rw [hwrites.latest t.target htarget] at hvalue
    obtain ⟨hthere, scope, s', haccepts, hscope⟩ := h.accepted hvalue
    refine ⟨fun name hname => ?_, scope, s', haccepts, fun name hname => ?_⟩
    · rw [hlookUp name (List.mem_cons_of_mem _ hname)]
      exact hthere name hname
    · rw [hlookUp name hname]
      exact hscope name hname
  · intro hmode habsent name hname
    rw [hwrites.has htarget] at habsent
    rw [hwrites.has (hnot name (List.mem_cons_of_mem _ hname))]
    exact h.untouched (hwrites.mode ▸ hmode) habsent name hname

theorem Operation.accepts_of_validate {entity target : String} {scope : Record} {v : Value}
    {calls : List Call} {s t : Session}
    (h : exec (validate entity target scope v calls) s = (.ok (), t)) {c : Call} (hc : c ∈ calls) :
    ∃ s' accepted, (exec (c.invoke entity target scope [v]) s').1 = .ok accepted ∧
      accepted.isTrue = true := by
  induction calls generalizing s with
  | nil => cases hc
  | cons first calls ih =>
      unfold validate at h
      rw [exec_bind_eq_ok] at h
      obtain ⟨accepted, s', hfirst, h⟩ := h
      split at h
      · rename_i htrue
        rcases List.mem_cons.mp hc with rfl | hc
        · exact ⟨s, accepted, by rw [hfirst], htrue⟩
        · exact ih h hc
      · cases h

namespace Group

variable {e : Entity} {g : Group} {t : Token} {o : Operation} {done : List Operation}

theorem verdict_of_requireTarget (h : g.requireTarget = true) (c : Context) : g.verdict e c =
    match c.latest.get? g.target with
    | some v => if v.isNull then .skip else .run
    | none =>
      if decide (c.mode = some .update) && g.requiredFields.any c.latest.has then .demandTarget
      else .skip := by
  unfold verdict
  rw [h]
  rfl

/-- When a group skips, either its target is null or nothing of what it depends on changes. -/
theorem checked_of_skip {entity : String} (hrequire : g.requireTarget = true)
    (htarget : g.target = t.target) (hreads : ∀ name ∈ t.references, name ∈ g.requiredFields)
    {c : Context} (hskip : g.verdict e c = .skip) : t.Checked entity c := by
  rw [verdict_of_requireTarget hrequire, htarget] at hskip
  constructor
  · intro hvalue
    unfold Record.getOrNull at hvalue
    cases hget : c.latest.get? t.target with
    | none =>
        rw [hget] at hvalue
        cases hvalue
    | some v =>
        rw [hget] at hvalue hskip
        have hnull : v.isNull = false := hvalue
        simp [hnull] at hskip
  · intro hmode habsent name hname
    rw [(Record.get?_eq_none_iff _ _).mpr habsent, hmode] at hskip
    by_contra hhas
    have hchanged : g.requiredFields.any c.latest.has = true :=
      List.any_eq_true.mpr ⟨name, hreads name hname, by simpa using hhas⟩
    simp [hchanged] at hskip

theorem checked_of_run (hdraws : ∀ o ∈ g.operations, ∀ c ∈ o.calls, c.modifier.Draws)
    (hoperations : g.operations = done ++ [o]) (hholds : g.Holds o) (hmakes : o.Makes t)
    (hkind : t.kind = .validator) (hself : g.target ∉ g.requiredFields) {s u : Session}
    (hs : s.context.latest.names.Nodup) (hhas : s.context.latest.has g.target = true)
    (hmissing : g.missing s.context = [])
    (h : exec (g.operations.forM fun o => Operation.runCalls e.name g.target o.kind o.calls) s =
      (.ok (), u)) : t.Checked e.name u.context := by
  have htarget : g.target = t.target := hholds.target_eq.symm.trans hmakes.target_eq
  have hreads : ∀ name ∈ t.references, name ∈ g.requiredFields :=
    fun name hname => hholds.references_eq ▸ hmakes.reads name hname
  rw [hoperations] at h hdraws
  obtain ⟨v, w, hdone, ho, hrest⟩ := exec_forM_ok_split h
  cases hrest
  have hwrites : Session.Writes (· = g.target) s v :=
    (Operation.writesOnly_forM e.name g.target fun o' ho' =>
      hdraws o' (List.mem_append_left _ ho')).writes hdone
  have hvalidate := @Operation.draws_validate e.name g.target _ (hdraws o (by simp))
    v.context.scope (v.context.latest.getOrNull g.target)
  rw [hmakes.kind_eq, hkind] at ho
  unfold Operation.runCalls at ho
  rw [exec_bind_of_ok (exec_context v)] at ho
  dsimp only at ho
  have hcontext := hvalidate.context_eq v
  rw [ho] at hcontext
  dsimp only at hcontext
  -- the target has a value in what is to be written, so this is the value that the scope shows
  have hnodup := hwrites.nodup hs
  have hgrown := hwrites.grows g.target hhas
  have hvalue : v.context.scope.getOrNull t.target = v.context.latest.getOrNull g.target := by
    unfold Record.getOrNull
    rw [← htarget, Context.get?_scope hnodup, Context.lookUp?_of_has hgrown]
  rw [hcontext]
  constructor
  · intro _
    constructor
    · intro name hname
      rw [hwrites.lookUp? fun heq => hself (heq ▸ hreads name hname)]
      have hthere : ∀ name ∈ g.requiredFields, (s.context.lookUp? name).isSome = true := by
        simpa [missing, Option.ne_none_iff_isSome] using hmissing
      exact hthere name (hreads name hname)
    · obtain ⟨s', accepted, haccepted, htrue⟩ :=
        Operation.accepts_of_validate ho hmakes.call_mem
      rw [← hvalue, htarget] at haccepted
      exact ⟨v.context.scope, s', ⟨accepted, haccepted, htrue⟩,
        fun name _ => Context.get?_scope hnodup name⟩
  · intro _ habsent
    rw [← htarget, hgrown] at habsent
    cases habsent

theorem checked_apply (hdraws : ∀ o ∈ g.operations, ∀ c ∈ o.calls, c.modifier.Draws)
    (hoperations : g.operations = done ++ [o]) (hholds : g.Holds o) (hmakes : o.Makes t)
    (hkind : t.kind = .validator) (hself : g.target ∉ g.requiredFields) {s u : Session}
    (hs : s.context.latest.names.Nodup) (h : exec (g.apply e) s = (.ok (), u)) :
    t.Checked e.name u.context := by
  have htarget : g.target = t.target := hholds.target_eq.symm.trans hmakes.target_eq
  have hreads : ∀ name ∈ t.references, name ∈ g.requiredFields :=
    fun name hname => hholds.references_eq ▸ hmakes.reads name hname
  have hrequire : g.requireTarget = true := by
    rw [← hholds.requiresTarget_eq, Operation.requiresTarget_iff, hmakes.kind_eq, hkind]
    decide
  unfold apply at h
  rw [exec_bind_of_ok (exec_context s)] at h
  cases hverdict : g.verdict e s.context with
  | skip =>
      rw [hverdict] at h
      cases h
      exact checked_of_skip hrequire htarget hreads hverdict
  | demandTarget =>
      rw [hverdict] at h
      cases h
  | run =>
      rw [hverdict] at h
      dsimp only at h
      split at h
      · rename_i hmissing
        have hhas : s.context.latest.has g.target = true := by
          rw [verdict_of_requireTarget hrequire] at hverdict
          split at hverdict
          · rename_i hget
            exact Record.has_of_get?_eq_some hget
          · split at hverdict <;> cases hverdict
        exact checked_of_run hdraws hoperations hholds hmakes hkind hself hs hhas hmissing h
      · cases h

end Group

theorem Routine.checked_apply {e : Entity} {r : Routine} {t : Token} {before after : List Group}
    {g : Group} {done : List Operation} {o : Operation} (hdraws : r.Draws)
    (hends : r.EndsAt t before g done o after) (hself : g.target ∉ g.requiredFields)
    (hlater : ∀ g' ∈ after, g'.target ∉ g.requiredFields) (hkind : t.kind = .validator)
    {s u : Session} (hs : s.context.latest.names.Nodup)
    (h : exec (r.apply e) s = (.ok (), u)) : t.Checked e.name u.context := by
  unfold apply at h
  unfold Routine.Draws at hdraws
  rw [hends.groups_eq] at h hdraws
  obtain ⟨v, w, hbefore, hg, hafter⟩ := exec_forM_ok_split h
  have hv : v.context.latest.names.Nodup :=
    ((writesOnly_groups fun g' hg' => hdraws g' (List.mem_append_left _ hg')).writes hbefore).nodup
      hs
  have hwrites : Session.Writes (fun name => ∃ g' ∈ after, name = g'.target) w u :=
    (writesOnly_groups fun g' hg' => hdraws g' (by simp [hg'])).writes hafter
  refine (Group.checked_apply (hdraws g (by simp)) hends.operations_eq hends.holds hends.makes
    hkind hself hv hg).of_writes hwrites ?_
  rintro name hname ⟨g', hg', rfl⟩
  rcases List.mem_cons.mp hname with htarget | hread
  · exact hends.later g' hg' htarget
  · exact hlater g' hg' (hends.holds.references_eq ▸ hends.makes.reads _ hread)

theorem Entity.writesNothing_runRules {e : Entity} (h : e.Sound)
    (htracking : ∀ u ∈ e.features, u.name ≠ Feature.stateTracking.name) (point : RulePoint) :
    WritesOnly (fun _ => False) (e.runRules (Feature.rulesOf Feature.builtin) point) := by
  refine .forM fun u hu s => ?_
  rw [FeatureUse.exec_runRules (h.known u hu)]
  exact (Feature.writes_work u.name point ⟨u, e⟩ s).mono fun _ hname => htracking u hu hname.1

namespace Preparation

variable {equipment : Equipment} {e : Entity} {r : Routine} {mode : Mode} {s u : Session}

theorem checked_prepare (h : e.Sound) (hrules : equipment.rules = Feature.rulesOf Feature.builtin)
    (hgenerators : ∀ g ∈ equipment.generators, g.Draws) (hdraws : r.Draws)
    (htracking : ∀ u ∈ e.features, u.name ≠ Feature.stateTracking.name) {t : Token}
    {before after : List Group} {g : Group} {done : List Operation} {o : Operation}
    (hends : r.EndsAt t before g done o after) (hself : g.target ∉ g.requiredFields)
    (hlater : ∀ g' ∈ after, g'.target ∉ g.requiredFields) (hkind : t.kind = .validator)
    {values : Record} (hprepare : exec (prepare equipment e r mode) s = (.ok values, u)) :
    t.Checked e.name u.context ∧ u.context.mode = some mode ∧ values = u.context.latest ∧
      u.context.latest.names.Nodup := by
  obtain ⟨v, w, hbegins, hrun, rfl, hvalues⟩ := exec_prepare_ok hprepare
  obtain ⟨hempty, hmode⟩ := hbegins.latest_and_mode
  have hwrites := (writesOnly_later h hrules hgenerators hdraws mode).writes hrun
  refine ⟨?_, hwrites.mode.trans hmode, hvalues, hwrites.nodup (hempty ▸ List.nodup_nil)⟩
  obtain ⟨v₁, v₂, v₃, hfill, happly, hrules₁, hrules₂⟩ := exec_later_ok hrun
  rw [hrules] at hrules₁ hrules₂
  have hfilled : v₁.context.latest.names.Nodup := by
    have hnodup := @nodup_fill equipment e mode hgenerators (v.atPoint .perFieldFill)
      (hempty ▸ List.nodup_nil)
    rw [hfill] at hnodup
    exact hnodup
  have happlied : t.Checked e.name v₂.context :=
    Routine.checked_apply (s := v₁.atPoint .applyRoutine) hdraws hends hself hlater hkind hfilled
      happly
  have hnothing : Session.Writes (fun _ => False) v₂ (w.atPoint .done) :=
    (writesOnly_reach .postValidation v₂).trans
      (((e.writesNothing_runRules h htracking _).writes hrules₁).trans
        (((e.writesNothing_runRules h htracking _).writes hrules₂).trans
          (writesOnly_reach .done w)))
  exact happlied.of_writes hnothing fun _ _ => id

end Preparation

end FieldPipeline
