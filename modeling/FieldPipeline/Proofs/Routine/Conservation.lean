import FieldPipeline.Proofs.Routine.Circularity
import FieldPipeline.Proofs.Routine.Grouping

/-!
What a routine keeps of the uses of modifiers that an entity declares.  Every use has one token.
The tokens stand in the operations, and the operations in the groups, in the order of the routine;
an operation or a group ends only where what comes next does not belong to it.

The identity of a token joins the name of a field, a place and the name of a modifier.  The name of
the field may hold the signs between them, but that of a modifier has no tilde, so that the last
tilde tells where the field ends: every use has a node of its own.
-/

namespace FieldPipeline

/-- The longest pieces of a list in which each member goes with the next one. -/
structure MaximalRuns {α : Type} (goes : α → α → Prop) (l : List α) (runs : List (List α)) :
    Prop where
  flatten_eq : runs.flatten = l
  ne_nil : ∀ run ∈ runs, run ≠ []
  together : ∀ run ∈ runs, run.IsChain goes
  apart : runs.IsChain fun run next => ∀ a ∈ run.getLast?, ∀ b ∈ next.head?, ¬goes a b

theorem maximalRuns_splitBy {α : Type} {goes : α → α → Prop} {r : α → α → Bool} {l : List α}
    (h : ∀ a ∈ l, ∀ b ∈ l, r a b = true ↔ goes a b) : MaximalRuns goes l (l.splitBy r) where
  flatten_eq := l.flatten_splitBy r
  ne_nil _ := List.ne_nil_of_mem_splitBy
  together run hrun := by
    refine (List.isChain_of_mem_splitBy hrun).imp_of_mem_imp fun a b ha hb hab => ?_
    exact (h a (mem_of_mem_splitBy hrun ha) b (mem_of_mem_splitBy hrun hb)).mp hab
  apart := by
    refine (l.isChain_getLast_head_splitBy r).imp_of_mem_imp fun run next hrun hnext => ?_
    rintro ⟨hne, hne', hboundary⟩ a ha b hb hgoes
    rw [← List.getLast_of_mem_getLast? ha, ← List.head_of_mem_head? hb] at hgoes
    have hjoined := (h _ (mem_of_mem_splitBy hrun (List.getLast_mem hne))
      _ (mem_of_mem_splitBy hnext (List.head_mem hne'))).mpr hgoes
    rw [hboundary] at hjoined
    cases hjoined

namespace Token

structure StandsFor (table : ModifierTable) (u : PlacedUse) (t : Token) : Prop where
  id_eq : t.id = idOf u.field u.place u.use.name
  target_eq : t.target = u.field
  kind_eq : t.kind = t.call.modifier.kind
  chainable_eq : t.chainable = u.use.chainable
  modifier : modifierFor table u.use u.field = .ok t.call.modifier
  args_eq : t.call.args = u.use.args
  condition_eq : t.call.condition = u.use.condition

theorem standsFor_of_ofUse {table : ModifierTable} {e : Entity} {u : PlacedUse} {t : Token}
    (h : ofUse table e u.field u.place u.use = .ok t) : t.StandsFor table u := by
  obtain ⟨m, _, _, hm, _, _, _, _, rfl⟩ := ofUse_ok h
  exact ⟨rfl, rfl, rfl, rfl, hm, rfl, rfl⟩

def Merges (merging : Bool) (t next : Token) : Prop :=
  merging = true ∧ t.chainable = true ∧ next.chainable = true ∧ t.kind = next.kind ∧
    t.target = next.target

theorem merges_iff {merging : Bool} {t next : Token} :
    (merging && t.joins next) = true ↔ t.Merges merging next := by
  simp [Merges, joins, and_assoc]

end Token

namespace Operation

structure IsOf (tokens : List Token) (o : Operation) : Prop where
  uniform : ∀ t ∈ tokens, t.kind = o.kind ∧ t.target = o.target
  tokenIds_eq : o.tokenIds = tokens.map (·.id)
  calls_eq : o.calls = tokens.map (·.call)
  mem_references_iff : ∀ name, name ∈ o.references ↔ ∃ t ∈ tokens, name ∈ t.references

def SharesGuard (o other : Operation) : Prop :=
  o.target = other.target ∧ (∀ name, name ∈ o.references ↔ name ∈ other.references) ∧
    (o.kind ≠ .activator ↔ other.kind ≠ .activator)

variable {merging : Bool} {ts : List Token}

theorem isOf_of_ofTokens? {chunk : List Token} {o : Operation}
    (hchain : chunk.IsChain fun t next => (merging && t.joins next) = true)
    (h : ofTokens? chunk = some o) : o.IsOf chunk where
  uniform t ht := (uniform_of_ofTokens? hchain h t ht).symm
  tokenIds_eq := by
    cases chunk with
    | nil => cases h
    | cons first rest =>
        cases h
        rfl
  calls_eq := calls_ofTokens? h
  mem_references_iff := mem_references_ofTokens? h

theorem forall₂_isOf_ofOrder (merging : Bool) (ts : List Token) : List.Forall₂
    (fun chunk o => IsOf chunk o) (ts.splitBy fun t next => merging && t.joins next)
      (ofOrder merging ts) := by
  have hchunks : ∀ chunks : List (List Token), [] ∉ chunks →
      (∀ chunk ∈ chunks, chunk.IsChain fun t next => (merging && t.joins next) = true) →
      List.Forall₂ (fun chunk o => IsOf chunk o) chunks (chunks.filterMap ofTokens?) := by
    intro chunks hne hchains
    induction chunks with
    | nil => exact .nil
    | cons chunk chunks ih =>
        rw [List.mem_cons, not_or] at hne
        rw [List.forall_mem_cons] at hchains
        cases chunk with
        | nil => exact absurd rfl hne.1
        | cons first rest =>
            exact .cons (isOf_of_ofTokens? hchains.1 rfl) (ih hne.2 hchains.2)
  exact hchunks _ (List.nil_notMem_splitBy _ _) fun _ => List.isChain_of_mem_splitBy

theorem flatMap_tokenIds {chunks : List (List Token)} {operations : List Operation}
    (h : List.Forall₂ (fun chunk o => IsOf chunk o) chunks operations) :
    operations.flatMap (·.tokenIds) = chunks.flatten.map (·.id) := by
  induction h with
  | nil => rfl
  | cons hof _ ih => rw [List.flatMap_cons, List.flatten_cons, List.map_append, hof.tokenIds_eq, ih]

theorem pairwise_references {o : Operation} (ho : o ∈ ofOrder merging ts) :
    o.references.Pairwise (· < ·) := by
  obtain ⟨chunk, _, hof⟩ := List.mem_filterMap.mp ho
  cases chunk with
  | nil => cases hof
  | cons first rest =>
      cases hof
      exact Expression.pairwise_sortedNames _

theorem sameGuard_iff_sharesGuard {o other : Operation} (ho : o ∈ ofOrder merging ts)
    (hother : other ∈ ofOrder merging ts) : o.sameGuard other = true ↔ o.SharesGuard other := by
  have hreferences : o.references = other.references ↔
      ∀ name, name ∈ o.references ↔ name ∈ other.references :=
    ⟨fun h _ => h ▸ Iff.rfl, (pairwise_references ho).eq_of_mem_iff (pairwise_references hother)⟩
  rw [sameGuard_iff, SharesGuard, hreferences, Bool.eq_iff_iff, requiresTarget_iff,
    requiresTarget_iff]

end Operation

namespace Routine

def operations (r : Routine) : List Operation :=
  r.groups.flatMap (·.operations)

/-- Whether a routine does what an entity declares, with some tokens in order: it has one token
for each use, its operations are the longest runs of tokens that are merged, and its groups are
the longest runs of operations under one guard. -/
structure Conserves (table : ModifierTable) (merging : Bool) (e : Entity) (r : Routine)
    (tokens : List Token) : Prop where
  declared : ∃ ts, e.tokens table = .ok ts ∧
    List.Forall₂ (fun u t => t.StandsFor table u) e.uses ts ∧ tokens.Perm ts
  order_eq : r.order = tokens.map (·.id)
  distinct : r.order.Nodup
  tokenIds_eq : r.operations.flatMap (·.tokenIds) = r.order
  merged : ∃ runs, MaximalRuns (Token.Merges merging) tokens runs ∧
    List.Forall₂ (fun run o => Operation.IsOf run o) runs r.operations
  unmerged : merging = false → ∀ o ∈ r.operations, o.tokenIds.length = 1
  grouped : MaximalRuns Operation.SharesGuard r.operations (r.groups.map (·.operations))
  guarded : ∀ g ∈ r.groups, ∀ o ∈ g.operations, g.target = o.target ∧
    (∀ name, name ∈ g.requiredFields ↔ name ∈ o.references) ∧
    (g.requireTarget = true ↔ o.kind ≠ .activator)

theorem operations_ofOrder (entity : String) (merging : Bool) (tokens : List Token) :
    (ofOrder entity merging tokens).operations = Operation.ofOrder merging tokens :=
  Group.flatMap_operations_ofOrder _

end Routine

theorem MaximalRuns.length_eq_one {α : Type} {goes : α → α → Prop} {l : List α}
    {runs : List (List α)} (h : MaximalRuns goes l runs) (hgoes : ∀ a b, ¬goes a b) :
    ∀ run ∈ runs, run.length = 1 := by
  intro run hrun
  rcases run with _ | ⟨a, _ | ⟨b, rest⟩⟩
  · exact absurd rfl (h.ne_nil _ hrun)
  · rfl
  · exact absurd (List.isChain_cons_cons.mp (h.together _ hrun)).1 (hgoes a b)

namespace Entity

variable {table : ModifierTable} {merging : Bool} {e : Entity} {r : Routine}

theorem Ordered.perm {ts sorted : List Token} (hordered : Ordered table sorted)
    (hids : ts.Pairwise fun t t' => t.id ≠ t'.id) (hmem : ∀ t, t ∈ sorted ↔ t ∈ ts) :
    sorted.Perm ts := by
  have hnodup : ts.Nodup := hids.imp fun hne h => hne (congrArg Token.id h)
  exact (List.perm_ext_iff_of_nodup (hordered.nodup.of_map _) hnodup).mpr hmem

/-- Compiling an entity loses, doubles and moves nothing. -/
theorem conserves_of_compile (hfields : e.fieldNames.Nodup)
    (h : e.compile ModifierTable.builtin merging = .ok r) :
    ∃ tokens, r.Conserves ModifierTable.builtin merging e tokens := by
  have htable := ModifierTable.notMem_tilde_builtin
  obtain ⟨ts, tokens, hts, hmem, hordered, rfl⟩ := exists_ordered htable hfields h
  have hof := Operation.forall₂_isOf_ofOrder merging tokens
  have hruns : MaximalRuns (Token.Merges merging) tokens
      (tokens.splitBy fun t next => merging && t.joins next) :=
    maximalRuns_splitBy fun _ _ _ _ => Token.merges_iff
  refine ⟨tokens, ?_, rfl, hordered.nodup, ?_, ?_, ?_, ?_, ?_⟩
  · exact ⟨ts, hts, (forall₂_uses hts).imp fun _ _ => Token.standsFor_of_ofUse,
      hordered.perm (ids_tokens htable hts hfields) hmem⟩
  · rw [Routine.operations_ofOrder, Operation.flatMap_tokenIds hof, List.flatten_splitBy]
    rfl
  · exact ⟨_, hruns, (Routine.operations_ofOrder e.name merging tokens).symm ▸ hof⟩
  · rintro rfl o ho
    rw [Routine.operations_ofOrder] at ho
    obtain ⟨run, hrun, hisOf⟩ := exists_of_mem_forall₂ hof ho
    rw [hisOf.tokenIds_eq, List.length_map]
    exact hruns.length_eq_one (fun _ _ hmerges => Bool.false_ne_true hmerges.1) run hrun
  · rw [Routine.operations_ofOrder]
    change MaximalRuns _ _ ((Group.ofOrder (Operation.ofOrder merging tokens)).map _)
    rw [Group.map_operations_ofOrder]
    exact maximalRuns_splitBy fun o ho other hother =>
      Operation.sameGuard_iff_sharesGuard ho hother
  · intro g hg o ho
    have hholds := Group.holds_of_mem_ofOrder hg ho
    refine ⟨hholds.target_eq.symm, fun name => hholds.references_eq ▸ Iff.rfl, ?_⟩
    rw [← hholds.requiresTarget_eq, Operation.requiresTarget_iff]

def headline : Entity where
  name := "headline"
  fields := [
    { name := "slug", optional := true, modifiers := [
      { kind := "Activator", name := "copy", args := [.fieldRef "text"] },
      { kind := "Processor", name := "lower" }] },
    { name := "text", modifiers := [
      { kind := "Processor", name := "trim" }, { kind := "Validator", name := "not_empty" },
      { kind := "Validator", name := "min_length", args := [.int 3] },
      { kind := "Validator", name := "max_length", args := [.int 80], chainable := false }] }]

theorem headline_conserves : headline.fieldNames.Nodup ∧
    ∃ r, headline.compile ModifierTable.builtin true = .ok r ∧
      r.groups.map (fun g => g.operations.map (·.tokenIds)) =
        [[["text~0:trim"], ["text~1:not_empty", "text~2:min_length"], ["text~3:max_length"]],
          [["slug~0:copy"]], [["slug~1:lower"]]] ∧
      ∃ tokens, r.Conserves ModifierTable.builtin true headline tokens := by
  have hfields : headline.fieldNames.Nodup := by decide
  exact ⟨hfields, _, rfl, rfl, conserves_of_compile hfields rfl⟩

end Entity

/-! ### The identities of tokens -/

def PlacedUse.id (u : PlacedUse) : String :=
  Token.idOf u.field u.place u.use.name

namespace Entity

variable {table : ModifierTable} {e : Entity} {ts : List Token}

theorem map_id_tokens (h : e.tokens table = .ok ts) : ts.map (·.id) = e.uses.map PlacedUse.id := by
  have huses := forall₂_uses h
  clear h
  generalize e.uses = us at huses
  induction huses with
  | nil => rfl
  | cons hof _ ih => rw [List.map_cons, List.map_cons, ih, (Token.isOfUse_of_ofUse hof).id_eq]; rfl

structure Identified (table : ModifierTable) (e : Entity) (ts : List Token) : Prop where
  /-- Tokens with the same identity have the same field and place. -/
  inj : ∀ t ∈ ts, ∀ t' ∈ ts, t.id = t'.id → t.target = t'.target ∧ t.position = t'.position
  distinct : (e.uses.map PlacedUse.id).Nodup
  /-- The token found under the identity of a use is the one that stands for it. -/
  found : List.Forall₂ (fun u t => t.StandsFor table u ∧ t.position = u.place ∧
    Token.withId? ts u.id = some t) e.uses ts
  nodes : (Token.graph ts).nodes = e.uses.map PlacedUse.id

/-- The identities of tokens never collide. -/
theorem identified_tokens (htable : ∀ m ∈ table, '~' ∉ m.name.toList)
    (hfields : e.fieldNames.Nodup) (hts : e.tokens table = .ok ts) : e.Identified table ts := by
  have hids : (ts.map (·.id)).Nodup := List.pairwise_map.mpr (ids_tokens htable hts hfields)
  have huses := forall₂_uses hts
  refine ⟨fun _ ht _ ht' => place_of_id_eq htable hts ht ht', map_id_tokens hts ▸ hids, ?_, ?_⟩
  · refine List.forall₂_iff_get.mpr ⟨huses.length_eq, fun i hi hi' => ?_⟩
    have hof := (List.forall₂_iff_get.mp huses).2 i hi hi'
    have hisOf := Token.isOfUse_of_ofUse hof
    refine ⟨Token.standsFor_of_ofUse hof, hisOf.position_eq, ?_⟩
    exact (Token.withId?_eq_some_iff hids).mpr ⟨List.get_mem _ _, hisOf.id_eq⟩
  · rw [← map_id_tokens hts]
    exact (Token.traces_graph hids (fun _ => notSelf_of_mem_tokens hts)
      (positions_tokens hts hfields)).nodes_eq

def lookalike : Entity where
  name := "lookalike"
  fields := [
    { name := "a", modifiers := [
      { kind := "Processor", name := "trim" }, { kind := "Processor", name := "upper" }] },
    { name := "a~0:trim", modifiers := [
      { kind := "Activator", name := "copy", args := [.fieldRef "a"] },
      { kind := "Processor", name := "trim" }] },
    { name := "a~1:upper~0", modifiers := [{ kind := "Processor", name := "trim" }] },
    { name := "a~", modifiers := [{ kind := "Processor", name := "trim" }] }]

theorem lookalike_identified : (∀ m ∈ ModifierTable.builtin, '~' ∉ m.name.toList) ∧
    lookalike.fieldNames.Nodup ∧ ∃ ts, lookalike.tokens ModifierTable.builtin = .ok ts ∧
      lookalike.uses.map PlacedUse.id = ["a~0:trim", "a~1:upper", "a~0:trim~0:copy",
        "a~0:trim~1:trim", "a~1:upper~0~0:trim", "a~~0:trim"] ∧
      lookalike.Identified ModifierTable.builtin ts := by
  have hfields : lookalike.fieldNames.Nodup := by decide
  have htable := ModifierTable.notMem_tilde_builtin
  exact ⟨htable, hfields, _, rfl, rfl, identified_tokens htable hfields rfl⟩

/-- A modifier with a tilde in its name takes the identity of a use on another field. -/
example : Token.idOf "a" 0 "b~0:c" = Token.idOf "a~0:b" 0 "c" := by decide

end Entity

end FieldPipeline
