import FieldPipeline.Proofs.Drawing
import FieldPipeline.Proofs.Preparation.Application
import FieldPipeline.Proofs.Routine.Grouping

/-!
What a use reads is settled when it is read.  The order of the tokens puts every use on a field
in front of all that read it, operations and groups keep that order, and an operation writes to
its own field only.  So the value that a referenced field has when an operation starts is the
one that the field has in the end.
-/

namespace FieldPipeline

namespace Routine

/-- Whether the order of a routine is one of all tokens of an entity in which each comes behind
those that precede it. -/
def InOrder (table : ModifierTable) (e : Entity) (r : Routine) : Prop :=
  ∃ ts, e.tokens table = .ok ts ∧ r.order.Nodup ∧ (∀ id, id ∈ r.order ↔ ∃ t ∈ ts, t.id = id) ∧
    ∀ t ∈ ts, ∀ t' ∈ ts, t.Precedes t' → r.order.idxOf t.id < r.order.idxOf t'.id

/-- Whether an operation of a routine starts in a session `t` when the routine is applied in a
session `s`: what comes before the operation has been done, and its group runs. -/
def Starts (e : Entity) (r : Routine) (s : Session) (o : Operation) (t : Session) : Prop :=
  ∃ before g after done rest u, r.groups = before ++ g :: after ∧
    exec (before.forM (Group.apply e)) s = (.ok (), u) ∧
    g.verdict e u.context = .run ∧ g.missing u.context = [] ∧
    g.operations = done ++ o :: rest ∧
    exec (done.forM fun o => Operation.runCalls e.name g.target o.kind o.calls) u = (.ok (), t)

/-- Whether all that an operation of a routine reads has its last value when it starts. -/
def Settles (e : Entity) (r : Routine) : Prop :=
  ∀ s o t, r.Starts e s o t → ∀ name ∈ o.references,
    (exec (r.apply e) s).2.context.lookUp? name = t.context.lookUp? name

end Routine

theorem Group.exec_apply_of_run {e : Entity} {g : Group} {s : Session}
    (hverdict : g.verdict e s.context = .run) (hmissing : g.missing s.context = []) :
    exec (g.apply e) s =
      exec (g.operations.forM fun o => Operation.runCalls e.name g.target o.kind o.calls) s := by
  unfold Group.apply
  rw [exec_bind_of_ok (Run.exec_context s), hverdict]
  dsimp only
  rw [hmissing]

namespace Routine

variable {e : Entity} {r : Routine}

theorem writes_of_starts {s t : Session} {o : Operation} (hdraws : r.Draws)
    (h : r.Starts e s o t) :
    ∃ before g after, r.groups = before ++ g :: after ∧ o ∈ g.operations ∧
      Session.Writes (fun name => name = g.target ∨ ∃ g' ∈ after, name = g'.target) t
        (exec (r.apply e) s).2 := by
  obtain ⟨before, g, after, done, rest, u, hgroups, hbefore, hverdict, hmissing, hoperations,
    hdone⟩ := h
  refine ⟨before, g, after, hgroups, by simp [hoperations], ?_⟩
  have hof : ∀ g' ∈ g :: after, ∀ o ∈ g'.operations, ∀ c ∈ o.calls, c.modifier.Draws := by
    intro g' hg'
    refine hdraws g' ?_
    rw [hgroups]
    exact List.mem_append_right before hg'
  have hrest : Run.WritesOnly (fun name => name = g.target)
      ((o :: rest).forM fun o => Operation.runCalls e.name g.target o.kind o.calls) := by
    refine Operation.writesOnly_forM _ _ fun o' ho' => hof g (by simp) o' ?_
    rw [hoperations]
    exact List.mem_append_right done ho'
  have hafter : Run.WritesOnly (fun name => ∃ g' ∈ after, name = g'.target)
      (after.forM (Group.apply e)) :=
    writesOnly_groups fun g' hg' => hof g' (List.mem_cons_of_mem g hg')
  have hcontinue : exec (r.apply e) s =
      exec (((o :: rest).forM fun o => Operation.runCalls e.name g.target o.kind o.calls) >>=
        fun _ => after.forM (Group.apply e)) t := by
    unfold apply
    rw [hgroups, exec_forM_append, exec_bind_of_ok hbefore, exec_forM_cons, exec_bind,
      Group.exec_apply_of_run hverdict hmissing, hoperations, exec_forM_append,
      exec_bind_of_ok hdone, ← exec_bind]
  rw [hcontinue]
  exact ((hrest.mono fun _ => .inl).bind fun _ => hafter.mono fun _ => .inr) t

theorem settles_of_pairwise (hdraws : r.Draws)
    (hholds : ∀ g ∈ r.groups, ∀ o ∈ g.operations, g.Holds o)
    (hself : ∀ g ∈ r.groups, g.target ∉ g.requiredFields)
    (hlater : r.groups.Pairwise fun g g' => g'.target ∉ g.requiredFields) : r.Settles e := by
  intro s o t hstarts name hname
  obtain ⟨before, g, after, hgroups, ho, hwrites⟩ := writes_of_starts hdraws hstarts
  have hg : g ∈ r.groups := by simp [hgroups]
  rw [(hholds g hg o ho).references_eq] at hname
  refine hwrites.lookUp? ?_
  rintro (rfl | ⟨g', hg', rfl⟩)
  · exact hself g hg hname
  · rw [hgroups, List.pairwise_append, List.pairwise_cons] at hlater
    exact hlater.2.1.1 g' hg' hname

end Routine

namespace Entity

variable {table : ModifierTable} {merging : Bool} {e : Entity} {r : Routine}

theorem exists_token_of_mem_calls {ts : List Token} {g : Group} {o : Operation} {c : Call}
    (hg : g ∈ (Routine.ofOrder e.name merging ts).groups) (ho : o ∈ g.operations)
    (hc : c ∈ o.calls) : ∃ t ∈ ts, t.call = c ∧ t.kind = o.kind := by
  obtain ⟨t, ht, hcall, hmakes⟩ :=
    Operation.exists_makes_of_mem_calls (Group.mem_of_mem_ofOrder hg ho) hc
  exact ⟨t, ht, hcall, hmakes.kind_eq.symm⟩

theorem registered_of_compile (h : e.compile table merging = .ok r) :
    ∀ g ∈ r.groups, ∀ o ∈ g.operations, ∀ c ∈ o.calls, c.modifier ∈ table := by
  obtain ⟨ts, order, hts, _, rfl⟩ := compile_ok h
  intro g hg o ho c hc
  obtain ⟨t, ht, rfl, _⟩ := exists_token_of_mem_calls hg ho hc
  obtain ⟨id, _, hid⟩ := List.mem_filterMap.mp ht
  obtain ⟨target, position, u, hof⟩ := isOfUse_of_mem_tokens hts (List.mem_of_find?_eq_some hid)
  exact hof.registered

theorem draws_of_ordered {ts : List Token} (hordered : Ordered table ts)
    (htable : ∀ m ∈ table, m.Draws) : (Routine.ofOrder e.name merging ts).Draws := by
  intro g hg o ho c hc
  obtain ⟨t, ht, rfl, _⟩ := exists_token_of_mem_calls hg ho hc
  obtain ⟨target, position, u, hof⟩ := hordered.isOfUse t ht
  exact htable _ hof.registered

/-- The routine of an entity puts all uses in order, and in every run whatever an operation reads
has its last value when the operation starts. -/
theorem inOrder_and_settles_of_compile (hfields : e.fieldNames.Nodup)
    (h : e.compile ModifierTable.builtin merging = .ok r) :
    r.InOrder ModifierTable.builtin e ∧ r.Settles e := by
  obtain ⟨ts, sorted, hts, hmem, hordered, rfl⟩ :=
    exists_ordered ModifierTable.notMem_tilde_builtin hfields h
  constructor
  · refine ⟨ts, hts, hordered.nodup, fun id => ?_, fun t ht t' ht' => ?_⟩
    · simp only [Routine.ofOrder, List.mem_map, hmem]
    · exact hordered.before t ((hmem t).mpr ht) t' ((hmem t').mpr ht')
  · have hself := hordered.notSelf
    refine Routine.settles_of_pairwise ?_ ?_ ?_ ?_
    · exact draws_of_ordered hordered fun m hm => ModifierTable.draws_builtin hm
    · exact fun g hg o ho => Group.holds_of_mem_ofOrder hg ho
    · intro g hg
      obtain ⟨o, ho⟩ := List.exists_mem_of_ne_nil _ (Group.operations_ne_nil hg)
      have hholds := Group.holds_of_mem_ofOrder hg ho
      rw [← hholds.target_eq, ← hholds.references_eq]
      exact Operation.target_notMem_references hself (Group.mem_of_mem_ofOrder hg ho)
    · exact pairwise_groups_of_compile ModifierTable.notMem_tilde_builtin hfields h

def badge : Entity where
  name := "badge"
  fields := [
    { name := "label", optional := true, modifiers := [
      { kind := "Activator", name := "copy", args := [.fieldRef "title"] }] },
    { name := "title", modifiers := [
      { kind := "Processor", name := "trim" }, { kind := "Processor", name := "upper" }] }]

theorem badge_inOrder_and_settles : badge.fieldNames.Nodup ∧
    ∃ r, badge.compile ModifierTable.builtin true = .ok r ∧
      r.order = ["title~0:trim", "title~1:upper", "label~0:copy"] ∧
      r.InOrder ModifierTable.builtin badge ∧ r.Settles badge := by
  have hfields : badge.fieldNames.Nodup := by decide
  exact ⟨hfields, _, rfl, rfl, inOrder_and_settles_of_compile hfields rfl⟩

end Entity

end FieldPipeline
