import FieldPipeline.Proofs.Modifier.Reading
import FieldPipeline.Proofs.Routine.Settling

/-!
What a routine comes to while it is applied: the operations that start, and the calls that these
make, each over some record and with some values.
-/

namespace FieldPipeline

/-- Whether an operation that starts in a session `t` comes to a call, over a record, with some
values before its arguments, in a session. -/
inductive Operation.Reaches (entity : String) (o : Operation) (t : Session) (c : Call) :
    Record → List Value → Session → Prop
  | validator (before after : List Call) (u : Session) (hkind : o.kind = .validator)
      (hcalls : o.calls = before ++ c :: after)
      (hbefore : exec (validate entity o.target t.context.scope
        (t.context.latest.getOrNull o.target) before) t = (.ok (), u)) :
      Reaches entity o t c t.context.scope [t.context.latest.getOrNull o.target] u
  | processor (before after : List Call) (v : Value) (u : Session) (hkind : o.kind = .processor)
      (hcalls : o.calls = before ++ c :: after)
      (hbefore : exec (process entity o.target t.context.scope
        (t.context.latest.getOrNull o.target) before) t = (.ok v, u)) :
      Reaches entity o t c
        (if before.isEmpty then t.context.scope else t.context.scope.put o.target v) [v] u
  | activator (before after : List Call) (u : Session) (hkind : o.kind = .activator)
      (hcalls : o.calls.reverse = before ++ c :: after)
      (hbefore : exec (derive? entity o.target t.context.scope before) t = (.ok none, u)) :
      Reaches entity o t c t.context.scope [] u

namespace Operation.Reaches

variable {entity : String} {o : Operation} {t u : Session} {c : Call} {scope : Record}
  {values : List Value}

theorem mem_calls (h : o.Reaches entity t c scope values u) : c ∈ o.calls := by
  cases h with
  | validator before after _ _ hcalls => simp [hcalls]
  | processor before after _ _ _ hcalls => simp [hcalls]
  | activator before after _ _ hcalls =>
      rw [← List.mem_reverse, hcalls]
      simp

theorem length_eq (h : o.Reaches entity t c scope values u) : values.length = o.kind.given := by
  cases h with
  | validator _ _ _ hkind => rw [hkind]; rfl
  | processor _ _ _ _ hkind => rw [hkind]; rfl
  | activator _ _ _ hkind => rw [hkind]; rfl

theorem has_scope (h : o.Reaches entity t c scope values u) {name : String}
    (hname : t.context.scope.has name = true) : scope.has name = true := by
  cases h with
  | validator => exact hname
  | activator => exact hname
  | processor =>
      split
      · exact hname
      · rw [Record.has_put, hname, Bool.or_true]

end Operation.Reaches

namespace Routine

variable {e : Entity} {r : Routine}

/-- When an operation starts, the record has all that the operation reads, and its own field too
unless it derives that. -/
theorem has_scope_of_starts (hdraws : r.Draws)
    (hholds : ∀ g ∈ r.groups, ∀ o ∈ g.operations, g.Holds o) {s t : Session} {o : Operation}
    (h : r.Starts e s o t) : (∀ name ∈ o.references, t.context.scope.has name = true) ∧
      (o.kind ≠ .activator → t.context.scope.has o.target = true) := by
  obtain ⟨before, g, after, done, rest, u, hgroups, _, hverdict, hmissing, hoperations, hdone⟩ := h
  have hg : g ∈ r.groups := by simp [hgroups]
  have ho : o ∈ g.operations := by simp [hoperations]
  have hhold := hholds g hg o ho
  have hwrites : Session.Writes (· = g.target) u t := by
    refine (Operation.writesOnly_forM e.name g.target fun o' ho' => ?_).writes hdone
    exact hdraws g hg o' (by simp [hoperations, ho'])
  have hkept : ∀ name, u.context.scope.has name = true → t.context.scope.has name = true := by
    intro name hname
    unfold Context.scope at hname ⊢
    rw [Record.has_update, Bool.or_eq_true] at hname ⊢
    rw [hwrites.existing]
    exact hname.imp_left (hwrites.grows name)
  constructor
  · intro name hname
    apply hkept
    rw [hhold.references_eq] at hname
    rw [Context.has_scope]
    by_contra habsent
    have hmem : name ∈ g.missing u.context :=
      List.mem_filter.mpr ⟨hname, by simpa using habsent⟩
    rw [hmissing] at hmem
    cases hmem
  · intro hkind
    apply hkept
    have hrequire : g.requireTarget = true := by
      rw [← hhold.requiresTarget_eq]
      exact Operation.requiresTarget_iff.mpr hkind
    unfold Group.verdict at hverdict
    rw [if_pos hrequire] at hverdict
    rw [hhold.target_eq, Context.has_scope]
    cases hvalue : u.context.latest.get? g.target with
    | none =>
        rw [hvalue] at hverdict
        dsimp only at hverdict
        split at hverdict <;> cases hverdict
    | some v => simp [Context.lookUp?, hvalue]

end Routine

namespace Entity

variable {table : ModifierTable} {merging : Bool} {e : Entity} {r : Routine}

theorem exists_token_of_compile (h : e.compile table merging = .ok r) {g : Group}
    (hg : g ∈ r.groups) {o : Operation} (ho : o ∈ g.operations) {c : Call} (hc : c ∈ o.calls) :
    ∃ ts, e.tokens table = .ok ts ∧ ∃ t ∈ ts, t.call = c ∧ o.Makes t := by
  obtain ⟨ts, order, hts, _, rfl⟩ := compile_ok h
  obtain ⟨t, ht, hcall, hmakes⟩ :=
    Operation.exists_makes_of_mem_calls (Group.mem_of_mem_ofOrder hg ho) hc
  obtain ⟨id, _, hid⟩ := List.mem_filterMap.mp ht
  exact ⟨ts, hts, t, List.mem_of_find?_eq_some hid, hcall, hmakes⟩

theorem holds_of_compile (h : e.compile table merging = .ok r) :
    ∀ g ∈ r.groups, ∀ o ∈ g.operations, g.Holds o := by
  obtain ⟨_, _, _, _, rfl⟩ := compile_ok h
  exact fun g hg o ho => Group.holds_of_mem_ofOrder hg ho

theorem exists_modified_of_compile (h : e.compile table merging = .ok r) {g : Group}
    (hg : g ∈ r.groups) : ∃ f ∈ e.fields, f.name = g.target ∧ f.modifiers ≠ [] := by
  have hholds := holds_of_compile h g hg
  obtain ⟨o, ho, c, hc⟩ : ∃ o ∈ g.operations, ∃ c, c ∈ o.calls := by
    obtain ⟨_, _, _, _, rfl⟩ := compile_ok h
    obtain ⟨o, ho⟩ := List.exists_mem_of_ne_nil _ (Group.operations_ne_nil hg)
    exact ⟨o, ho, List.exists_mem_of_ne_nil _
      (Operation.calls_ne_nil (Group.mem_of_mem_ofOrder hg ho))⟩
  obtain ⟨ts, hts, t, ht, -, hmakes⟩ := exists_token_of_compile h hg ho hc
  obtain ⟨f, hf, u, hu, position, hof⟩ := exists_use_of_mem_tokens hts ht
  refine ⟨f, hf, ?_, List.ne_nil_of_mem hu⟩
  rw [← (hholds o ho).target_eq, hmakes.target_eq, (Token.isOfUse_of_ofUse hof).target_eq]

theorem fields_of_compile (h : e.compile table merging = .ok r) {g : Group} (hg : g ∈ r.groups) :
    g.target ∈ e.fieldNames ∧ ∀ name ∈ g.requiredFields, name ∈ e.fieldNames := by
  constructor
  · obtain ⟨f, hf, hname, -⟩ := exists_modified_of_compile h hg
    exact hname ▸ List.mem_map_of_mem hf
  obtain ⟨ts, order, hts, -, rfl⟩ := compile_ok h
  have hread : ∀ t ∈ order.filterMap (Token.withId? ts), ∀ name ∈ t.references,
      name ∈ e.fieldNames := by
    intro t ht name hname
    obtain ⟨id, -, hid⟩ := List.mem_filterMap.mp ht
    obtain ⟨f, hf, u, -, position, hof⟩ :=
      exists_use_of_mem_tokens hts (List.mem_of_find?_eq_some hid)
    obtain ⟨m, texts, read, -, -, -, -, hknown, rfl⟩ := Token.ofUse_ok hof
    rw [Expression.mem_sortedNames] at hname
    exact (e.mem_fieldNames name).mpr (hknown name hname)
  obtain ⟨o, ho⟩ := List.exists_mem_of_ne_nil _ (Group.operations_ne_nil hg)
  obtain ⟨chunk, hchunk, hof, -⟩ :=
    Operation.exists_tokens_of_mem_ofOrder (Group.mem_of_mem_ofOrder hg ho)
  rw [← (Group.holds_of_mem_ofOrder hg ho).references_eq]
  intro name hname
  obtain ⟨t, ht, hname⟩ := (Operation.mem_references_ofTokens? hof name).mp hname
  exact hread t (mem_of_mem_splitBy hchunk ht) name hname

theorem draws_of_compile (htable : ∀ m ∈ table, m.Draws) (h : e.compile table merging = .ok r) :
    r.Draws :=
  fun g hg o ho c hc => htable _ (registered_of_compile h g hg o ho c hc)

end Entity

end FieldPipeline
