import Mathlib.Data.List.SplitBy
import FieldPipeline.Proofs.Routine.Ordering

/-!
The operations and groups of tokens in order.  The tokens of an operation have one kind and one
field, the operations of a group run under one guard, and nothing is left out or moved.  The last
token on a field ends up in the last operation of a group, and no later group works on the field.
-/

namespace FieldPipeline

theorem eq_of_isChain {α β : Type} {r : α → α → Bool} {f : α → β}
    (hr : ∀ a b, r a b = true → f a = f b) {a : α} {l : List α}
    (h : List.IsChain (fun a b => r a b = true) (a :: l)) : ∀ b ∈ l, f b = f a := by
  induction l generalizing a with
  | nil => simp
  | cons c l ih =>
      rw [List.isChain_cons_cons] at h
      intro b hb
      rcases List.mem_cons.mp hb with rfl | hb
      · exact (hr a b h.1).symm
      · exact (ih h.2 b hb).trans (hr a c h.1).symm

theorem mem_of_mem_splitBy {α : Type} {r : α → α → Bool} {l chunk : List α}
    (hchunk : chunk ∈ l.splitBy r) {a : α} (ha : a ∈ chunk) : a ∈ l := by
  rw [← l.flatten_splitBy r]
  exact List.mem_flatten.mpr ⟨chunk, hchunk, ha⟩

namespace Token

theorem kind_eq_of_joins {t next : Token} (h : t.joins next = true) : t.kind = next.kind := by
  simp only [joins, Bool.and_eq_true, beq_iff_eq] at h
  exact h.1.2

theorem target_eq_of_joins {t next : Token} (h : t.joins next = true) :
    t.target = next.target := by
  simp only [joins, Bool.and_eq_true, beq_iff_eq] at h
  exact h.2

end Token

namespace Operation

variable {merging : Bool} {ts : List Token}

theorem requiresTarget_iff {o : Operation} : o.requiresTarget = true ↔ o.kind ≠ .activator := by
  simp [requiresTarget]

theorem sameGuard_iff {o other : Operation} : o.sameGuard other = true ↔
    o.target = other.target ∧ o.references = other.references ∧
      o.requiresTarget = other.requiresTarget := by
  simp only [sameGuard, Bool.and_eq_true, beq_iff_eq, and_assoc]

theorem uniform_of_ofTokens? {chunk : List Token} {o : Operation}
    (hchain : chunk.IsChain fun t next => (merging && t.joins next) = true)
    (h : ofTokens? chunk = some o) : ∀ t ∈ chunk, t.target = o.target ∧ t.kind = o.kind := by
  cases chunk with
  | nil => simp
  | cons first rest =>
      cases h
      intro t ht
      rcases List.mem_cons.mp ht with rfl | ht
      · exact ⟨rfl, rfl⟩
      · constructor
        · refine eq_of_isChain (f := Token.target) (fun a b h => ?_) hchain t ht
          rw [Bool.and_eq_true] at h
          exact Token.target_eq_of_joins h.2
        · refine eq_of_isChain (f := Token.kind) (fun a b h => ?_) hchain t ht
          rw [Bool.and_eq_true] at h
          exact Token.kind_eq_of_joins h.2

theorem exists_tokens_of_mem_ofOrder {o : Operation} (ho : o ∈ ofOrder merging ts) :
    ∃ chunk ∈ ts.splitBy fun t next => merging && t.joins next,
      ofTokens? chunk = some o ∧ ∀ t ∈ chunk, t.target = o.target ∧ t.kind = o.kind := by
  obtain ⟨chunk, hchunk, ho⟩ := List.mem_filterMap.mp ho
  exact ⟨chunk, hchunk, ho, uniform_of_ofTokens? (List.isChain_of_mem_splitBy hchunk) ho⟩

theorem mem_references_ofTokens? {chunk : List Token} {o : Operation}
    (h : ofTokens? chunk = some o) (name : String) :
    name ∈ o.references ↔ ∃ t ∈ chunk, name ∈ t.references := by
  cases chunk with
  | nil => cases h
  | cons first rest =>
      cases h
      rw [Expression.mem_sortedNames, List.mem_flatMap]

theorem calls_ofTokens? {chunk : List Token} {o : Operation} (h : ofTokens? chunk = some o) :
    o.calls = chunk.map (·.call) := by
  cases chunk with
  | nil => cases h
  | cons first rest =>
      cases h
      rfl

structure Makes (o : Operation) (t : Token) : Prop where
  call_mem : t.call ∈ o.calls
  target_eq : o.target = t.target
  kind_eq : o.kind = t.kind
  reads : ∀ name ∈ t.references, name ∈ o.references

theorem makes_of_ofTokens? {chunk : List Token} {o : Operation} {t : Token}
    (hchain : chunk.IsChain fun t next => (merging && t.joins next) = true)
    (h : ofTokens? chunk = some o) (ht : t ∈ chunk) : o.Makes t where
  call_mem := by
    rw [calls_ofTokens? h]
    exact List.mem_map_of_mem ht
  target_eq := (uniform_of_ofTokens? hchain h t ht).1.symm
  kind_eq := (uniform_of_ofTokens? hchain h t ht).2.symm
  reads name hname := (mem_references_ofTokens? h name).mpr ⟨t, ht, hname⟩

theorem exists_makes_of_mem_calls {o : Operation} (ho : o ∈ ofOrder merging ts) {c : Call}
    (hc : c ∈ o.calls) : ∃ t ∈ ts, t.call = c ∧ o.Makes t := by
  obtain ⟨chunk, hchunk, hof⟩ := List.mem_filterMap.mp ho
  rw [calls_ofTokens? hof] at hc
  obtain ⟨t, ht, rfl⟩ := List.mem_map.mp hc
  exact ⟨t, mem_of_mem_splitBy hchunk ht, rfl,
    makes_of_ofTokens? (List.isChain_of_mem_splitBy hchunk) hof ht⟩

theorem calls_ne_nil {o : Operation} (ho : o ∈ ofOrder merging ts) : o.calls ≠ [] := by
  obtain ⟨chunk, _, hof⟩ := List.mem_filterMap.mp ho
  cases chunk with
  | nil => cases hof
  | cons first rest =>
      cases hof
      simp

theorem target_notMem_references (hself : ∀ t ∈ ts, t.target ∉ t.references) {o : Operation}
    (ho : o ∈ ofOrder merging ts) : o.target ∉ o.references := by
  obtain ⟨chunk, hchunk, hof, huniform⟩ := exists_tokens_of_mem_ofOrder ho
  rw [mem_references_ofTokens? hof]
  rintro ⟨t, ht, hread⟩
  rw [← (huniform t ht).1] at hread
  exact hself t (mem_of_mem_splitBy hchunk ht) hread

theorem pairwise_ofOrder (hlater : ts.Pairwise fun t t' => t'.target ∉ t.references) :
    (ofOrder merging ts).Pairwise fun o o' => o'.target ∉ o.references := by
  have hof : ∀ o ∈ ofOrder merging ts, ∃ chunk ∈ ts.splitBy fun t next => merging && t.joins next,
      ofTokens? chunk = some o ∧ ∀ t ∈ chunk, t.target = o.target ∧ t.kind = o.kind :=
    fun _ => exists_tokens_of_mem_ofOrder
  rw [← List.flatten_splitBy (fun t next => merging && t.joins next) ts,
    List.pairwise_flatten] at hlater
  unfold ofOrder
  rw [List.pairwise_filterMap]
  refine hlater.2.imp_of_mem ?_
  intro chunk chunk' hchunk hchunk' hpair o ho o' ho' hread
  rw [mem_references_ofTokens? ho] at hread
  obtain ⟨t, ht, hread⟩ := hread
  cases chunk' with
  | nil => cases ho'
  | cons first rest =>
      cases ho'
      exact hpair t ht first (by simp) hread

end Operation

namespace Group

variable {operations : List Operation}

structure Holds (g : Group) (o : Operation) : Prop where
  target_eq : o.target = g.target
  references_eq : o.references = g.requiredFields
  requiresTarget_eq : o.requiresTarget = g.requireTarget

theorem holds_of_ofOperations? {chunk : List Operation} {g : Group}
    (hchain : chunk.IsChain fun o other => o.sameGuard other = true)
    (h : ofOperations? chunk = some g) : g.operations = chunk ∧ ∀ o ∈ chunk, g.Holds o := by
  have hguard : ∀ o other : Operation, o.sameGuard other = true →
      (o.target, o.references, o.requiresTarget) =
        (other.target, other.references, other.requiresTarget) := by
    intro o other h
    obtain ⟨htarget, hreferences, hrequires⟩ := Operation.sameGuard_iff.mp h
    rw [htarget, hreferences, hrequires]
  cases chunk with
  | nil => cases h
  | cons first rest =>
      cases h
      refine ⟨rfl, fun o ho => ?_⟩
      rcases List.mem_cons.mp ho with rfl | ho
      · exact ⟨rfl, rfl, rfl⟩
      · have hsame := eq_of_isChain hguard hchain o ho
        simp only [Prod.mk.injEq] at hsame
        exact ⟨hsame.1, hsame.2.1, hsame.2.2⟩

theorem exists_operations_of_mem_ofOrder {g : Group} (hg : g ∈ ofOrder operations) :
    g.operations ∈ operations.splitBy Operation.sameGuard ∧ ∀ o ∈ g.operations, g.Holds o := by
  obtain ⟨chunk, hchunk, hof⟩ := List.mem_filterMap.mp hg
  obtain ⟨rfl, hholds⟩ := holds_of_ofOperations? (List.isChain_of_mem_splitBy hchunk) hof
  exact ⟨hchunk, hholds⟩

theorem holds_of_mem_ofOrder {g : Group} (hg : g ∈ ofOrder operations) {o : Operation}
    (ho : o ∈ g.operations) : g.Holds o :=
  (exists_operations_of_mem_ofOrder hg).2 o ho

theorem mem_of_mem_ofOrder {g : Group} (hg : g ∈ ofOrder operations) {o : Operation}
    (ho : o ∈ g.operations) : o ∈ operations :=
  mem_of_mem_splitBy (exists_operations_of_mem_ofOrder hg).1 ho

theorem operations_ne_nil {g : Group} (hg : g ∈ ofOrder operations) : g.operations ≠ [] :=
  List.ne_nil_of_mem_splitBy (exists_operations_of_mem_ofOrder hg).1

theorem pairwise_ofOrder (hlater : operations.Pairwise fun o o' => o'.target ∉ o.references) :
    (ofOrder operations).Pairwise fun g g' => g'.target ∉ g.requiredFields := by
  rw [← List.flatten_splitBy Operation.sameGuard operations, List.pairwise_flatten] at hlater
  unfold ofOrder
  rw [List.pairwise_filterMap]
  refine hlater.2.imp ?_
  intro chunk chunk' hpair g hg g' hg'
  cases chunk with
  | nil => cases hg
  | cons first rest =>
      cases chunk' with
      | nil => cases hg'
      | cons first' rest' =>
          cases hg
          cases hg'
          exact hpair first (by simp) first' (by simp)

theorem map_operations_ofOrder (operations : List Operation) :
    (ofOrder operations).map (·.operations) = operations.splitBy Operation.sameGuard := by
  have hchunks : ∀ chunks : List (List Operation), [] ∉ chunks →
      (chunks.filterMap ofOperations?).map (·.operations) = chunks := by
    intro chunks hne
    induction chunks with
    | nil => rfl
    | cons chunk chunks ih =>
        rw [List.mem_cons, not_or] at hne
        cases chunk with
        | nil => exact absurd rfl hne.1
        | cons o rest => simp [ofOperations?, ih hne.2]
  exact hchunks _ (List.nil_notMem_splitBy _ _)

theorem flatMap_operations_ofOrder (operations : List Operation) :
    (ofOrder operations).flatMap (·.operations) = operations := by
  rw [List.flatMap_def, map_operations_ofOrder, List.flatten_splitBy]

end Group

namespace Entity

variable {table : ModifierTable} {merging : Bool} {e : Entity} {r : Routine}

theorem pairwise_groups_of_compile (htable : ∀ m ∈ table, '~' ∉ m.name.toList)
    (hfields : e.fieldNames.Nodup) (h : e.compile table merging = .ok r) :
    r.groups.Pairwise fun g g' => g'.target ∉ g.requiredFields := by
  obtain ⟨_, sorted, _, _, hordered, rfl⟩ := exists_ordered htable hfields h
  exact Group.pairwise_ofOrder (Operation.pairwise_ofOrder
    (hordered.pairwise.imp fun hprecedes hread => hprecedes (.inr hread)))

theorem exists_token_of_mem_groups (htable : ∀ m ∈ table, '~' ∉ m.name.toList)
    (hfields : e.fieldNames.Nodup) (h : e.compile table merging = .ok r) {ts : List Token}
    (hts : e.tokens table = .ok ts) {g : Group} (hg : g ∈ r.groups) :
    ∃ t ∈ ts, t.target = g.target := by
  obtain ⟨sorted, hmem, _, rfl⟩ := ordered_of_tokens htable hfields h hts
  obtain ⟨o, ho⟩ := List.exists_mem_of_ne_nil _ (Group.operations_ne_nil hg)
  have hmine := Group.mem_of_mem_ofOrder hg ho
  obtain ⟨c, hc⟩ := List.exists_mem_of_ne_nil _ (Operation.calls_ne_nil hmine)
  obtain ⟨t, ht, _, hmakes⟩ := Operation.exists_makes_of_mem_calls hmine hc
  exact ⟨t, (hmem t).mp ht,
    hmakes.target_eq.symm.trans (Group.holds_of_mem_ofOrder hg ho).target_eq⟩

end Entity

/-! ### The last token on a field -/

theorem splitBy_of_last {α γ : Type} {r : α → α → Bool} {f : α → γ}
    (hr : ∀ a b, r a b = true → f a = f b) (pre : List α) {a : α} {post : List α}
    (hpost : ∀ a' ∈ post, f a' ≠ f a) : ∃ before c,
      (pre ++ a :: post).splitBy r = before ++ (c ++ [a]) :: post.splitBy r := by
  have hcut : (pre ++ [a] ++ post).splitBy r = (pre ++ [a]).splitBy r ++ post.splitBy r := by
    refine List.splitBy_append fun x hx y hy => ?_
    rw [List.getLast?_concat, Option.mem_some_iff] at hx
    subst hx
    exact Bool.eq_false_iff.mpr fun hsame =>
      hpost y (List.mem_of_mem_head? hy) (hr _ _ hsame).symm
  obtain ⟨before, chunk, hchunks⟩ : ∃ before chunk, (pre ++ [a]).splitBy r = before ++ [chunk] :=
    (List.eq_nil_or_concat' _).resolve_left (by simp [List.splitBy_eq_nil])
  obtain ⟨c, x, rfl⟩ : ∃ c x, chunk = c ++ [x] :=
    (List.eq_nil_or_concat' _).resolve_left
      (List.ne_nil_of_mem_splitBy (r := r) (l := pre ++ [a]) (by simp [hchunks]))
  have hflatten := List.flatten_splitBy r (pre ++ [a])
  rw [hchunks, List.flatten_append, List.flatten_singleton, ← List.append_assoc] at hflatten
  obtain ⟨_, hx⟩ := List.append_inj' hflatten rfl
  cases hx
  rw [List.append_assoc, hchunks, List.append_assoc] at hcut
  exact ⟨before, c, hcut⟩

theorem filterMap_splitBy_of_last {α β γ : Type} {r : α → α → Bool} {f : α → γ}
    {m : List α → Option β} {g : β → γ} (hr : ∀ a b, r a b = true → f a = f b)
    (hm : ∀ a rest, ∃ b, m (a :: rest) = some b ∧ g b = f a) (pre : List α) {a : α}
    {post : List α} (hpost : ∀ a' ∈ post, f a' ≠ f a) : ∃ before c b after,
      ((pre ++ a :: post).splitBy r).filterMap m = before ++ b :: after ∧
        (c ++ [a]).IsChain (fun x y => r x y = true) ∧ m (c ++ [a]) = some b ∧
        ∀ b' ∈ after, g b' ≠ f a := by
  obtain ⟨before, c, hsplit⟩ := splitBy_of_last hr pre hpost
  obtain ⟨b, hb⟩ : ∃ b, m (c ++ [a]) = some b := by
    cases c with
    | nil => exact (hm a []).imp fun _ => And.left
    | cons first c => exact (hm first (c ++ [a])).imp fun _ => And.left
  refine ⟨before.filterMap m, c, b, (post.splitBy r).filterMap m, ?_, ?_, hb, ?_⟩
  · rw [hsplit, List.filterMap_append, List.filterMap_cons_some hb]
  · exact List.isChain_of_mem_splitBy (l := pre ++ a :: post) (by rw [hsplit]; simp)
  · intro b' hb'
    obtain ⟨chunk, hchunk, hof⟩ := List.mem_filterMap.mp hb'
    obtain ⟨first, rest, rfl⟩ := List.exists_cons_of_ne_nil (List.ne_nil_of_mem_splitBy hchunk)
    obtain ⟨b'', hb'', hsort⟩ := hm first rest
    cases hof.symm.trans hb''
    rw [hsort]
    exact hpost first (mem_of_mem_splitBy hchunk (by simp))

theorem Operation.ofOrder_of_last (merging : Bool) (pre : List Token) {t : Token}
    {post : List Token} (hpost : ∀ t' ∈ post, t'.target ≠ t.target) : ∃ before o after,
      ofOrder merging (pre ++ t :: post) = before ++ o :: after ∧ o.Makes t ∧
        ∀ o' ∈ after, o'.target ≠ t.target := by
  obtain ⟨before, c, o, after, hsplit, hchain, ho, hafter⟩ := filterMap_splitBy_of_last
    (r := fun t next => merging && t.joins next) (m := ofTokens?) (g := Operation.target)
    (fun a b h => Token.target_eq_of_joins (Bool.and_eq_true_iff.mp h).2)
    (fun _ _ => ⟨_, rfl, rfl⟩) pre hpost
  exact ⟨before, o, after, hsplit, makes_of_ofTokens? hchain ho (by simp), hafter⟩

theorem Group.ofOrder_of_last (pre : List Operation) {o : Operation} {post : List Operation}
    (hpost : ∀ o' ∈ post, o'.target ≠ o.target) : ∃ before g done after,
      ofOrder (pre ++ o :: post) = before ++ g :: after ∧ g.operations = done ++ [o] ∧
        g.Holds o ∧ ∀ g' ∈ after, g'.target ≠ o.target := by
  obtain ⟨before, done, g, after, hsplit, hchain, hg, hafter⟩ := filterMap_splitBy_of_last
    (f := Operation.target) (m := ofOperations?) (g := Group.target)
    (fun a b h => (Operation.sameGuard_iff.mp h).1) (fun _ _ => ⟨_, rfl, rfl⟩) pre hpost
  obtain ⟨hoperations, hholds⟩ := holds_of_ofOperations? hchain hg
  exact ⟨before, g, done, after, hsplit, hoperations, hholds o (by simp), hafter⟩

structure Routine.EndsAt (r : Routine) (t : Token) (before : List Group) (g : Group)
    (done : List Operation) (o : Operation) (after : List Group) : Prop where
  groups_eq : r.groups = before ++ g :: after
  operations_eq : g.operations = done ++ [o]
  holds : g.Holds o
  makes : o.Makes t
  later : ∀ g' ∈ after, g'.target ≠ t.target

theorem Routine.ofOrder_of_last (entity : String) (merging : Bool) (pre : List Token) {t : Token}
    {post : List Token} (hpost : ∀ t' ∈ post, t'.target ≠ t.target) : ∃ before g done o after,
      (ofOrder entity merging (pre ++ t :: post)).EndsAt t before g done o after := by
  obtain ⟨earlier, o, rest, hoperations, hmakes, hrest⟩ :=
    Operation.ofOrder_of_last merging pre hpost
  have hrest' : ∀ o' ∈ rest, o'.target ≠ o.target := hmakes.target_eq ▸ hrest
  obtain ⟨before, g, done, after, hgroups, hdone, hholds, hafter⟩ :=
    Group.ofOrder_of_last earlier hrest'
  refine ⟨before, g, done, o, after, ?_, hdone, hholds, hmakes, hmakes.target_eq ▸ hafter⟩
  rw [← hgroups, ← hoperations]
  rfl

theorem Token.split_of_lastOn? {ts : List Token} {field : String} {t : Token}
    (h : lastOn? ts field = some t) : ∃ before after, ts = before ++ t :: after ∧
      ∀ t' ∈ after, t'.target ≠ field := by
  obtain ⟨_, after, before, hsplit, hnone⟩ := List.find?_eq_some_iff_append.mp h
  refine ⟨before.reverse, after.reverse, ?_, fun t' ht' => ?_⟩
  · simpa using congrArg List.reverse hsplit
  · simpa using hnone t' (List.mem_reverse.mp ht')

namespace Entity

variable {table : ModifierTable} {merging : Bool} {e : Entity} {r : Routine}

theorem Ordered.split_of_lastOn? {ts sorted : List Token} (hordered : Ordered table sorted)
    (hpositions : ts.Pairwise fun t t' => t.target = t'.target → t.position < t'.position)
    (hmem : ∀ t, t ∈ sorted ↔ t ∈ ts) {t : Token} (hlast : Token.lastOn? ts t.target = some t) :
    ∃ pre post, sorted = pre ++ t :: post ∧ ∀ t' ∈ post, t'.target ≠ t.target := by
  obtain ⟨pre, post, rfl⟩ :=
    List.append_of_mem ((hmem t).mpr (Token.lastOn?_eq_some hlast).1)
  refine ⟨pre, post, rfl, fun t' ht' htarget => ?_⟩
  have hpairwise := hordered.pairwise
  rw [List.pairwise_append, List.pairwise_cons] at hpairwise
  refine hpairwise.2.1.1 t' ht' (.inl ⟨htarget, ?_⟩)
  obtain ⟨before, after, rfl, hafter⟩ := Token.split_of_lastOn? hlast
  rcases List.mem_append.mp ((hmem t').mp (by simp [ht'])) with hbefore | hrest
  · rw [List.pairwise_append] at hpositions
    exact hpositions.2.2 t' hbefore t (by simp) htarget
  · rcases List.mem_cons.mp hrest with rfl | hrest
    · -- the same token would stand at two places
      have hnodup := hordered.nodup
      rw [List.map_append, List.map_cons, List.nodup_append, List.nodup_cons] at hnodup
      exact absurd (List.mem_map_of_mem ht') hnodup.2.1.1
    · exact absurd htarget (hafter t' hrest)

/-- The last token on a field is used at the end of a group, after which nothing works on the
field or on one that the group requires. -/
theorem exists_endsAt (htable : ∀ m ∈ table, '~' ∉ m.name.toList) (hfields : e.fieldNames.Nodup)
    (h : e.compile table merging = .ok r) {ts : List Token} (hts : e.tokens table = .ok ts)
    {t : Token} (hlast : Token.lastOn? ts t.target = some t) : ∃ before g done o after,
      r.EndsAt t before g done o after ∧ g.target ∉ g.requiredFields ∧
        ∀ g' ∈ after, g'.target ∉ g.requiredFields := by
  obtain ⟨sorted, hmem, hordered, rfl⟩ := ordered_of_tokens htable hfields h hts
  obtain ⟨pre, post, rfl, hpost⟩ :=
    hordered.split_of_lastOn? (positions_tokens hts hfields) hmem hlast
  obtain ⟨before, g, done, o, after, hends⟩ :=
    Routine.ofOrder_of_last e.name merging pre hpost
  have hg : g ∈ Group.ofOrder (Operation.ofOrder merging (pre ++ t :: post)) := by
    change g ∈ (Routine.ofOrder e.name merging (pre ++ t :: post)).groups
    rw [hends.groups_eq]
    simp
  have ho : o ∈ g.operations := by simp [hends.operations_eq]
  refine ⟨before, g, done, o, after, hends, ?_, ?_⟩
  · rw [← hends.holds.target_eq, ← hends.holds.references_eq]
    exact Operation.target_notMem_references hordered.notSelf (Group.mem_of_mem_ofOrder hg ho)
  · have hgroups := pairwise_groups_of_compile htable hfields h
    rw [hends.groups_eq, List.pairwise_append, List.pairwise_cons] at hgroups
    exact hgroups.2.1.1

end Entity

end FieldPipeline
