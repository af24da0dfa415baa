import FieldPipeline.Proofs.Routine.Grouping

/-!
The calls on a field in a routine.  Uses on a field that could be one operation are one unless
something comes between them; so each group of such uses is one operation, and one after the other
the groups make all calls on the field in the order of their declaration.
-/

namespace FieldPipeline

theorem isChain_filterMap {α β : Type} {R : α → α → Prop} {S : β → β → Prop} {f : α → Option β}
    {l : List α} (hsome : ∀ a ∈ l, (f a).isSome = true)
    (hf : ∀ a ∈ l, ∀ b ∈ l, R a b → ∀ x y, f a = some x → f b = some y → S x y)
    (h : l.IsChain R) : (l.filterMap f).IsChain S := by
  induction l with
  | nil => exact .nil
  | cons a l ih =>
      obtain ⟨x, hx⟩ := Option.isSome_iff_exists.mp (hsome a (by simp))
      have hrest := ih (fun b hb => hsome b (by simp [hb]))
        (fun b hb c hc => hf b (by simp [hb]) c (by simp [hc])) h.tail
      rw [List.filterMap_cons_some hx]
      cases l with
      | nil => exact .singleton x
      | cons b l =>
          obtain ⟨y, hy⟩ := Option.isSome_iff_exists.mp (hsome b (by simp))
          rw [List.filterMap_cons_some hy] at hrest ⊢
          rw [List.isChain_cons_cons] at h ⊢
          exact ⟨hf a (by simp) b (by simp) h.1 x y hx hy, hrest⟩

theorem flatMap_filter_of_uniform {α β : Type} {f : α → List β} {p : α → Bool} {q : β → Bool}
    {l : List α} (h : ∀ a ∈ l, ∀ b ∈ f a, q b = p a) :
    (l.filter p).flatMap f = (l.flatMap f).filter q := by
  induction l with
  | nil => rfl
  | cons a l ih =>
      rw [List.forall_mem_cons] at h
      rw [List.flatMap_cons, List.filter_append, ← ih h.2]
      cases hp : p a with
      | true =>
          have hall : (f a).filter q = f a :=
            List.filter_eq_self.mpr fun b hb => (h.1 b hb).trans hp
          rw [hall, List.filter_cons_of_pos hp, List.flatMap_cons]
      | false =>
          have hnone : (f a).filter q = [] :=
            List.filter_eq_nil_iff.mpr fun b hb => by simp [h.1 b hb, hp]
          rw [hnone, List.filter_cons_of_neg (by simp [hp]), List.nil_append]

namespace Operation

variable {target : String} {ts : List Token}

theorem isChain_ofOrder (hjoins : ∀ t ∈ ts, ∀ t' ∈ ts, t.target = target → t'.target = target →
      t.joins t' = true) :
    (ofOrder true ts).IsChain fun o o' => ¬(o.target = target ∧ o'.target = target) := by
  refine isChain_filterMap (fun chunk hchunk => ?_) ?_ (List.isChain_getLast_head_splitBy _ ts)
  · cases chunk with
    | nil => exact absurd hchunk (List.nil_notMem_splitBy _ _)
    | cons first rest => rfl
  · rintro chunk hchunk chunk' hchunk' ⟨hne, hne', hboundary⟩ o o' ho ho' ⟨htarget, htarget'⟩
    have hlast := List.getLast_mem hne
    have hhead := List.head_mem hne'
    have hof := (uniform_of_ofTokens? (List.isChain_of_mem_splitBy hchunk) ho _ hlast).1
    have hof' := (uniform_of_ofTokens? (List.isChain_of_mem_splitBy hchunk') ho' _ hhead).1
    rw [hjoins _ (mem_of_mem_splitBy hchunk hlast) _ (mem_of_mem_splitBy hchunk' hhead)
      (hof.trans htarget) (hof'.trans htarget')] at hboundary
    cases hboundary

theorem calls_ofOrder (merging : Bool) (ts : List Token) (target : String) :
    ((ofOrder merging ts).filter (·.target = target)).flatMap (·.calls) =
      (ts.filter (·.target = target)).map (·.call) := by
  have hchunks : ∀ chunks : List (List Token),
      (∀ chunk ∈ chunks, chunk.IsChain fun t next => (merging && t.joins next) = true) →
      ((chunks.filterMap ofTokens?).filter (·.target = target)).flatMap (·.calls) =
        (chunks.flatten.filter (·.target = target)).map (·.call) := by
    intro chunks hchains
    induction chunks with
    | nil => rfl
    | cons chunk chunks ih =>
        rw [List.forall_mem_cons] at hchains
        cases hof : ofTokens? chunk with
        | none =>
            cases chunk with
            | nil => exact ih hchains.2
            | cons first rest => cases hof
        | some o =>
            have huniform := uniform_of_ofTokens? hchains.1 hof
            rw [List.filterMap_cons_some hof, List.flatten_cons, List.filter_append,
              List.map_append, ← ih hchains.2]
            by_cases htarget : o.target = target
            · have hall : chunk.filter (·.target = target) = chunk :=
                List.filter_eq_self.mpr fun t ht => by simpa [(huniform t ht).1] using htarget
              rw [hall, List.filter_cons_of_pos (by simpa using htarget), List.flatMap_cons,
                calls_ofTokens? hof]
            · have hnone : chunk.filter (·.target = target) = [] :=
                List.filter_eq_nil_iff.mpr fun t ht => by simpa [(huniform t ht).1] using htarget
              rw [hnone, List.filter_cons_of_neg (by simpa using htarget), List.map_nil,
                List.nil_append]
  unfold ofOrder
  rw [hchunks _ fun chunk hchunk => List.isChain_of_mem_splitBy hchunk, List.flatten_splitBy]

end Operation

def Group.stretches (field : String) (groups : List Group) : List (List Call) :=
  (groups.filter (·.target = field)).map fun g => g.operations.flatMap (·.calls)

theorem Group.stretches_cons_of_eq (g : Group) (groups : List Group) :
    stretches g.target (g :: groups) =
      g.operations.flatMap (·.calls) :: stretches g.target groups := by
  simp [stretches]

theorem Group.stretches_cons_of_ne {field : String} {g : Group} (h : g.target ≠ field)
    (groups : List Group) : stretches field (g :: groups) = stretches field groups := by
  simp [stretches, h]

namespace Group

variable {target : String} {operations : List Operation}

theorem flatten_stretches_ofOrder (target : String) (operations : List Operation) :
    (stretches target (ofOrder operations)).flatten =
      (operations.filter (·.target = target)).flatMap (·.calls) := by
  have hgroups : ∀ groups : List Group,
      (∀ g ∈ groups, ∀ o ∈ g.operations, o.target = g.target) →
      (stretches target groups).flatten =
        ((groups.flatMap (·.operations)).filter (·.target = target)).flatMap (·.calls) := by
    intro groups hsame
    rw [← flatMap_filter_of_uniform (f := Group.operations) (p := fun g => g.target = target)
      fun g hg o ho => by rw [hsame g hg o ho]]
    unfold stretches
    rw [← List.flatMap_def, List.flatMap_assoc]
  rw [hgroups _ fun g hg o ho => (holds_of_mem_ofOrder hg ho).target_eq,
    flatMap_operations_ofOrder]

theorem operations_eq_singleton
    (hchain : operations.IsChain fun o o' => ¬(o.target = target ∧ o'.target = target)) {g : Group}
    (hg : g ∈ ofOrder operations) (htarget : g.target = target) : ∃ o, g.operations = [o] := by
  obtain ⟨hchunk, hholds⟩ := exists_operations_of_mem_ofOrder hg
  have hinfix : g.operations <:+: operations := by
    have hflatten := List.infix_of_mem_flatten hchunk
    rwa [List.flatten_splitBy] at hflatten
  have hmine := hchain.infix hinfix
  rcases hoperations : g.operations with _ | ⟨o, _ | ⟨o', rest⟩⟩
  · exact absurd hoperations (operations_ne_nil hg)
  · exact ⟨o, rfl⟩
  · rw [hoperations] at hmine hholds
    rw [List.isChain_cons_cons] at hmine
    exact absurd ⟨(hholds o (by simp)).target_eq.trans htarget,
      (hholds o' (by simp)).target_eq.trans htarget⟩ hmine.1

end Group

namespace Entity

variable {table : ModifierTable} {merging : Bool} {e : Entity} {r : Routine} {ts : List Token}

theorem Ordered.filter_eq {sorted : List Token} (hordered : Ordered table sorted)
    (hpositions : ts.Pairwise fun t t' => t.target = t'.target → t.position < t'.position)
    (hmem : ∀ t, t ∈ sorted ↔ t ∈ ts) (target : String) :
    sorted.filter (·.target = target) = ts.filter (·.target = target) := by
  have hirrefl : Std.Irrefl fun t t' : Token => t.position < t'.position :=
    ⟨fun _ => Nat.lt_irrefl _⟩
  have hantisymm : Std.Antisymm fun t t' : Token => t.position < t'.position :=
    ⟨fun _ _ h h' => absurd h (Nat.lt_asymm h')⟩
  refine List.Pairwise.eq_of_mem_iff (r := fun t t' : Token => t.position < t'.position) ?_ ?_
    fun t => by simp [hmem]
  · have hnodup : sorted.Pairwise fun t t' => t ≠ t' := hordered.nodup.of_map _
    rw [List.pairwise_filter]
    refine (hordered.pairwise.and hnodup).imp_of_mem fun {t t'} ht ht' hlater h h' => ?_
    rw [decide_eq_true_eq] at h h'
    have htarget : t.target = t'.target := h.trans h'.symm
    -- of two tokens on a field, the one that is declared first cannot come second
    obtain ⟨before, after, rfl⟩ := List.append_of_mem ((hmem t).mp ht)
    rw [List.pairwise_append, List.pairwise_cons] at hpositions
    rcases List.mem_append.mp ((hmem t').mp ht') with hbefore | hafter
    · exact absurd (.inl ⟨htarget.symm, hpositions.2.2 t' hbefore t (by simp) htarget.symm⟩)
        hlater.1
    · rcases List.mem_cons.mp hafter with hsame | hafter
      · exact absurd hsame.symm hlater.2
      · exact hpositions.2.1.1 t' hafter htarget
  · rw [List.pairwise_filter]
    refine hpositions.imp fun hposition h h' => hposition ?_
    rw [decide_eq_true_eq] at h h'
    exact h.trans h'.symm

theorem flatten_stretches_of_compile (htable : ∀ m ∈ table, '~' ∉ m.name.toList)
    (hfields : e.fieldNames.Nodup) (h : e.compile table merging = .ok r)
    (hts : e.tokens table = .ok ts) (target : String) :
    (Group.stretches target r.groups).flatten =
      (ts.filter (·.target = target)).map (·.call) := by
  obtain ⟨sorted, hmem, hordered, rfl⟩ := ordered_of_tokens htable hfields h hts
  rw [← hordered.filter_eq (positions_tokens hts hfields) hmem, ← Operation.calls_ofOrder merging]
  exact Group.flatten_stretches_ofOrder target _

/-- When all uses on a field could be one operation, each group on the field is one operation, and
makes the calls of some of them. -/
theorem single_of_compile (htable : ∀ m ∈ table, '~' ∉ m.name.toList)
    (hfields : e.fieldNames.Nodup) (h : e.compile table true = .ok r)
    (hts : e.tokens table = .ok ts) {target : String} (hjoins : ∀ t ∈ ts, ∀ t' ∈ ts,
      t.target = target → t'.target = target → t.joins t' = true) {g : Group} (hg : g ∈ r.groups)
    (htarget : g.target = target) : ∃ o, g.operations = [o] ∧ g.Holds o ∧
      o.calls ≠ [] ∧ ∀ c ∈ o.calls, ∃ t ∈ ts, t.call = c ∧ o.Makes t := by
  obtain ⟨sorted, hmem, hordered, rfl⟩ := ordered_of_tokens htable hfields h hts
  have hg' : g ∈ Group.ofOrder (Operation.ofOrder true sorted) := hg
  have hchain := Operation.isChain_ofOrder fun t ht t' ht' =>
    hjoins t ((hmem t).mp ht) t' ((hmem t').mp ht')
  obtain ⟨o, hoperations⟩ := Group.operations_eq_singleton hchain hg' htarget
  have ho : o ∈ g.operations := by simp [hoperations]
  have hmine := Group.mem_of_mem_ofOrder hg' ho
  refine ⟨o, hoperations, Group.holds_of_mem_ofOrder hg' ho, Operation.calls_ne_nil hmine, ?_⟩
  intro c hc
  obtain ⟨t, ht, hcall, hmakes⟩ := Operation.exists_makes_of_mem_calls hmine hc
  exact ⟨t, (hmem t).mp ht, hcall, hmakes⟩

end Entity

end FieldPipeline
