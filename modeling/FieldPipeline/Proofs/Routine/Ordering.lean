import Mathlib.Data.List.Induction
import Mathlib.Data.List.Nodup
import FieldPipeline.Proofs.Graph.Sorting
import FieldPipeline.Proofs.Routine.Token
import FieldPipeline.Routine.Compilation

/-!
The order of the tokens in a routine.  The graph has an edge from each token to the next one on
the same field, and from the last one on a field to whoever reads it.  Along these edges every
token of a field comes before the later ones and before all that read the field.
-/

namespace FieldPipeline

namespace Token

theorem lastOn?_append_singleton (ts : List Token) (t : Token) (field : String) :
    lastOn? (ts ++ [t]) field = if t.target = field then some t else lastOn? ts field := by
  by_cases h : t.target = field <;> simp [lastOn?, h]

theorem lastOn?_eq_some {ts : List Token} {field : String} {t : Token}
    (h : lastOn? ts field = some t) : t ∈ ts ∧ t.target = field := by
  have hmem := List.mem_of_find?_eq_some h
  have hfound := List.find?_some h
  rw [List.mem_reverse] at hmem
  exact ⟨hmem, by simpa using hfound⟩

theorem exists_lastOn? {ts : List Token} {t : Token} (ht : t ∈ ts) :
    ∃ last, lastOn? ts t.target = some last := by
  rw [← Option.isSome_iff_exists, lastOn?, List.find?_isSome]
  exact ⟨t, by simpa using ht, by simp⟩

structure Chained (ts : List Token) (g : Graph String) : Prop where
  nodes : ∀ n, n ∈ g.nodes ↔ ∃ t ∈ ts, t.id = n
  follows : ∀ before t after, ts = before ++ t :: after → ∀ previous,
    lastOn? before t.target = some previous → previous.id ∈ g.dependenciesOf t.id

def ReadsLinked (ts : List Token) (g : Graph String) (t : Token) : Prop :=
  ∀ field ∈ t.references, ∀ last, lastOn? ts field = some last →
    last.id ∈ g.dependenciesOf t.id

def Refines (g g' : Graph String) : Prop :=
  (∀ n, n ∈ g'.nodes ↔ n ∈ g.nodes) ∧ ∀ n, ∀ d ∈ g.dependenciesOf n, d ∈ g'.dependenciesOf n

theorem Refines.trans {g g' g'' : Graph String} (h : Refines g g') (h' : Refines g' g'') :
    Refines g g'' :=
  ⟨fun n => (h'.1 n).trans (h.1 n), fun n d hd => h'.2 n d (h.2 n d hd)⟩

theorem Chained.refines {ts : List Token} {g g' : Graph String} (hc : Chained ts g)
    (h : Refines g g') : Chained ts g' where
  nodes n := (h.1 n).trans (hc.nodes n)
  follows before t after hts previous hprevious :=
    h.2 _ _ (hc.follows before t after hts previous hprevious)

theorem refines_addEdges {g : Graph String} {d n : String} (hd : d ∈ g.nodes) (hn : n ∈ g.nodes)
    (hne : n ≠ d) : Refines g (g.addEdges d [n]).1 := by
  constructor
  · intro m
    rw [Graph.mem_nodes_addEdges rfl rfl hne]
    constructor
    · rintro (rfl | rfl | hm)
      · exact hd
      · exact hn
      · exact hm
    · exact fun hm => .inr (.inr hm)
  · intro m d' hd'
    rw [Graph.mem_dependenciesOf_addEdges rfl rfl hne]
    exact .inr hd'

theorem Chained.append {before : List Token} {g : Graph String} {t : Token}
    (hc : Chained before g) (hnew : ∀ t' ∈ before, t.id ≠ t'.id) :
    Chained (before ++ [t]) (match lastOn? before t.target with
      | some previous => ((g.register t.id).addEdges previous.id [t.id]).1
      | none => g.register t.id) := by
  have hregistered : ∀ n, n ∈ (g.register t.id).nodes ↔ ∃ t' ∈ before ++ [t], t'.id = n := by
    intro n
    rw [Graph.mem_nodes_iff, Graph.isRegistered_register, Bool.or_eq_true, beq_iff_eq,
      ← Graph.mem_nodes_iff, hc.nodes]
    constructor
    · rintro (rfl | ⟨t', ht', rfl⟩)
      · exact ⟨t, by simp, rfl⟩
      · exact ⟨t', by simp [ht'], rfl⟩
    · rintro ⟨t', ht', rfl⟩
      rcases List.mem_append.mp ht' with ht' | ht'
      · exact .inr ⟨t', ht', rfl⟩
      · rw [List.mem_singleton] at ht'
        exact .inl (ht' ▸ rfl)
  have hearlier : ∀ g', Refines (g.register t.id) g' →
      (∀ previous, lastOn? before t.target = some previous →
        previous.id ∈ g'.dependenciesOf t.id) → Chained (before ++ [t]) g' := by
    intro g' hrefines hedge
    refine ⟨fun n => (hrefines.1 n).trans (hregistered n), ?_⟩
    intro pre t' post hsplit previous hprevious
    rcases List.eq_nil_or_concat post with rfl | ⟨post, u, rfl⟩
    · obtain ⟨rfl, hlast⟩ := List.append_inj' hsplit rfl
      cases hlast
      exact hedge previous hprevious
    · have hsplit' : before ++ [t] = pre ++ t' :: post ++ [u] := by simpa using hsplit
      obtain ⟨rfl, _⟩ := List.append_inj' hsplit' rfl
      apply hrefines.2
      rw [Graph.dependenciesOf_register]
      exact hc.follows pre t' post rfl previous hprevious
  cases hlast : lastOn? before t.target with
  | none =>
      refine hearlier _ ⟨fun _ => Iff.rfl, fun _ _ hd => hd⟩ ?_
      intro previous hprevious
      cases hlast ▸ hprevious
  | some last =>
      obtain ⟨hmem, _⟩ := lastOn?_eq_some hlast
      refine hearlier _ ?_ ?_
      · refine refines_addEdges ?_ ?_ (hnew last hmem)
        · rw [hregistered]
          exact ⟨last, by simp [hmem], rfl⟩
        · rw [hregistered]
          exact ⟨t, by simp, rfl⟩
      · intro previous hprevious
        cases hlast ▸ hprevious
        rw [Graph.mem_dependenciesOf_addEdges rfl rfl (hnew last hmem)]
        exact .inl ⟨rfl, rfl⟩

theorem chained_spec {before rest : List Token} {g : Graph String} (hc : Chained before g)
    (hids : ((before ++ rest).map (·.id)).Nodup) :
    Chained (before ++ rest) (chained before g rest) := by
  induction rest generalizing before g with
  | nil => simpa [chained] using hc
  | cons t rest ih =>
      have hnew : ∀ t' ∈ before, t.id ≠ t'.id := by
        intro t' ht' hid
        rw [List.map_append, List.map_cons, List.nodup_append] at hids
        exact hids.2.2 t'.id (List.mem_map_of_mem ht') t.id (by simp) hid.symm
      rw [List.append_cons] at hids ⊢
      exact ih (hc.append hnew) hids

theorem addReads_spec {ts : List Token} {g : Graph String} {t : Token} (hc : Chained ts g)
    (hids : (ts.map (·.id)).Nodup) (ht : t ∈ ts) (hself : t.target ∉ t.references) :
    Refines g (addReads ts g t) ∧ ReadsLinked ts (addReads ts g t) t := by
  unfold addReads ReadsLinked
  generalize t.references = fields at hself
  induction fields generalizing g with
  | nil => exact ⟨⟨fun _ => Iff.rfl, fun _ _ hd => hd⟩, by simp⟩
  | cons field fields ih =>
      rw [List.mem_cons, not_or] at hself
      rw [List.foldl_cons]
      cases hlast : lastOn? ts field with
      | none =>
          obtain ⟨hrefines, hlinked⟩ := ih hc hself.2
          refine ⟨hrefines, fun other hother last hother' => ?_⟩
          rcases List.mem_cons.mp hother with rfl | hother
          · cases hlast ▸ hother'
          · exact hlinked other hother last hother'
      | some last =>
          obtain ⟨hmem, htarget⟩ := lastOn?_eq_some hlast
          have hne : t.id ≠ last.id := fun hid =>
            hself.1 (List.inj_on_of_nodup_map hids ht hmem hid ▸ htarget)
          have hedge : Refines g (g.addEdges last.id [t.id]).1 := by
            refine refines_addEdges ?_ ?_ hne
            · exact (hc.nodes _).mpr ⟨last, hmem, rfl⟩
            · exact (hc.nodes _).mpr ⟨t, ht, rfl⟩
          obtain ⟨hrefines, hlinked⟩ := ih (hc.refines hedge) hself.2
          refine ⟨hedge.trans hrefines, fun other hother last' hother' => ?_⟩
          rcases List.mem_cons.mp hother with rfl | hother
          · cases hlast ▸ hother'
            apply hrefines.2
            rw [Graph.mem_dependenciesOf_addEdges rfl rfl hne]
            exact .inl ⟨rfl, rfl⟩
          · exact hlinked other hother last' hother'

theorem graph_spec {ts : List Token} (hids : (ts.map (·.id)).Nodup)
    (hself : ∀ t ∈ ts, t.target ∉ t.references) :
    Chained ts (graph ts) ∧ ∀ t ∈ ts, ReadsLinked ts (graph ts) t := by
  have hreads : ∀ (rest : List Token) (g : Graph String), Chained ts g → (∀ t ∈ rest, t ∈ ts) →
      Refines g (rest.foldl (addReads ts) g) ∧
        ∀ t ∈ rest, ReadsLinked ts (rest.foldl (addReads ts) g) t := by
    intro rest
    induction rest with
    | nil => exact fun g _ _ => ⟨⟨fun _ => Iff.rfl, fun _ _ hd => hd⟩, by simp⟩
    | cons t rest ih =>
        intro g hc hrest
        have ht : t ∈ ts := hrest t (by simp)
        obtain ⟨hrefines, hlinked⟩ := addReads_spec hc hids ht (hself t ht)
        obtain ⟨hrefines', hlinked'⟩ :=
          ih _ (hc.refines hrefines) fun t' ht' => hrest t' (by simp [ht'])
        refine ⟨hrefines.trans hrefines', fun t' ht' => ?_⟩
        rcases List.mem_cons.mp ht' with rfl | ht'
        · exact fun field hfield last hlast => hrefines'.2 _ _ (hlinked field hfield last hlast)
        · exact hlinked' t' ht'
  have hempty : Chained [] Graph.empty := by
    refine ⟨by simp [Graph.nodes, Graph.empty], ?_⟩
    intro before t after h
    simp at h
  have hchained : Chained ts (chained [] Graph.empty ts) := by
    simpa using chained_spec hempty (by simpa using hids)
  obtain ⟨hrefines, hlinked⟩ := hreads ts _ hchained fun _ ht => ht
  exact ⟨hchained.refines hrefines, hlinked⟩

theorem sound_graph (ts : List Token) : (graph ts).Sound := by
  have hchained : ∀ rest before (g : Graph String), g.Sound → (chained before g rest).Sound := by
    intro rest
    induction rest with
    | nil => exact fun _ _ h => h
    | cons t rest ih =>
        intro before g h
        rw [chained]
        refine ih _ _ ?_
        cases lastOn? before t.target with
        | none => exact h.register t.id
        | some previous => exact (h.register t.id).addEdges previous.id [t.id]
  refine List.foldlRecOn ts (addReads ts) (hchained ts [] _ Graph.Sound.empty) fun g h t _ => ?_
  refine List.foldlRecOn t.references _ h fun g h field _ => ?_
  cases lastOn? ts field with
  | none => exact h
  | some last => exact h.addEdges last.id [t.id]

/-- Whether one of two tokens has to come before the other: it is declared before it on the same
field, or the other one reads its field. -/
def Precedes (t t' : Token) : Prop :=
  (t.target = t'.target ∧ t.position < t'.position) ∨ t.target ∈ t'.references

theorem needs_of_lastOn? {ts : List Token} {g : Graph String} (hc : Chained ts g)
    {before after : List Token} (hts : ts = before ++ after) {t last : Token} (ht : t ∈ before)
    (hlast : lastOn? before t.target = some last) :
    Relation.ReflTransGen g.Needs last.id t.id := by
  induction before using List.reverseRecOn generalizing after last with
  | nil => cases ht
  | append_singleton before u ih =>
      rw [lastOn?_append_singleton] at hlast
      have hsplit : ts = before ++ u :: after := by simpa using hts
      split at hlast
      · rename_i htarget
        cases hlast
        rcases List.mem_append.mp ht with ht | ht
        · obtain ⟨previous, hprevious⟩ := exists_lastOn? ht
          have hedge := hc.follows before u after hsplit previous (htarget ▸ hprevious)
          exact .head (Graph.needs_iff_mem.mpr hedge) (ih hsplit ht hprevious)
        · rw [List.mem_singleton.mp ht]
      · rename_i htarget
        rcases List.mem_append.mp ht with ht | ht
        · exact ih hsplit ht hlast
        · rw [List.mem_singleton] at ht
          exact absurd (ht ▸ rfl) htarget

theorem idxOf_le_of_needs {g : Graph String} {order : List String}
    (hbehind : ∀ n, ∀ d ∈ g.dependenciesOf n, order.idxOf d < order.idxOf n) {n d : String}
    (h : Relation.ReflTransGen g.Needs n d) : order.idxOf d ≤ order.idxOf n := by
  induction h with
  | refl => exact Nat.le_refl _
  | tail _ hedge ih =>
      have hlt := hbehind _ _ (Graph.needs_iff_mem.mp hedge)
      omega

theorem sort_graph_ok {ts : List Token} (hids : (ts.map (·.id)).Nodup)
    (hself : ∀ t ∈ ts, t.target ∉ t.references)
    (hpositions : ts.Pairwise fun t t' => t.target = t'.target → t.position < t'.position)
    {order : List String} (h : (graph ts).sort = .ok order) :
    order.Nodup ∧ (∀ n, n ∈ order ↔ ∃ t ∈ ts, t.id = n) ∧
      ∀ t ∈ ts, ∀ t' ∈ ts, Precedes t t' → order.idxOf t.id < order.idxOf t'.id := by
  obtain ⟨hchained, hlinked⟩ := graph_spec hids hself
  obtain ⟨hnodup, hnodes, hbehind⟩ := Graph.sort_ok (sound_graph ts) h
  have hids' : ∀ n, n ∈ order ↔ ∃ t ∈ ts, t.id = n := fun n => (hnodes n).trans (hchained.nodes n)
  refine ⟨hnodup, hids', ?_⟩
  rintro t ht t' ht' (⟨htarget, hposition⟩ | hread)
  · obtain ⟨before, after, rfl⟩ := List.append_of_mem ht'
    have hbefore : t ∈ before := by
      rw [List.pairwise_append, List.pairwise_cons] at hpositions
      rcases List.mem_append.mp ht with ht | ht
      · exact ht
      · rcases List.mem_cons.mp ht with rfl | ht
        · omega
        · have := hpositions.2.1.1 t ht htarget.symm
          omega
    obtain ⟨previous, hprevious⟩ := exists_lastOn? hbefore
    have hle := idxOf_le_of_needs hbehind (needs_of_lastOn? hchained rfl hbefore hprevious)
    have hedge := hchained.follows before t' after rfl previous (htarget ▸ hprevious)
    have hlt := hbehind t'.id previous.id hedge
    omega
  · obtain ⟨last, hlast⟩ := exists_lastOn? ht
    have hall := needs_of_lastOn? hchained (List.append_nil ts).symm ht hlast
    have hle := idxOf_le_of_needs hbehind hall
    have hedge := hlinked t' ht' t.target hread last hlast
    have hlt := hbehind t'.id last.id hedge
    omega

theorem withId?_eq_some_iff {ts : List Token} (hids : (ts.map (·.id)).Nodup) {id : String}
    {t : Token} : withId? ts id = some t ↔ t ∈ ts ∧ t.id = id := by
  constructor
  · intro h
    have hfound := List.find?_some h
    exact ⟨List.mem_of_find?_eq_some h, by simpa using hfound⟩
  · rintro ⟨ht, rfl⟩
    cases hfind : withId? ts t.id with
    | none =>
        have hnone := List.find?_eq_none.mp hfind t ht
        simp at hnone
    | some t' =>
        have hfound := List.find?_some hfind
        simp only [decide_eq_true_eq] at hfound
        rw [List.inj_on_of_nodup_map hids (List.mem_of_find?_eq_some hfind) ht hfound]

theorem map_id_filterMap_withId? {ts : List Token} (hids : (ts.map (·.id)).Nodup)
    {order : List String} (hall : ∀ n ∈ order, ∃ t ∈ ts, t.id = n) :
    (order.filterMap (withId? ts)).map (·.id) = order := by
  induction order with
  | nil => rfl
  | cons n order ih =>
      obtain ⟨t, ht, rfl⟩ := hall n (by simp)
      have hfind := (withId?_eq_some_iff hids).mpr ⟨ht, rfl⟩
      rw [List.filterMap_cons_some hfind, List.map_cons,
        ih fun n hn => hall n (List.mem_cons_of_mem _ hn)]

end Token

namespace Entity

variable {table : ModifierTable} {merging : Bool} {e : Entity} {r : Routine}

theorem compile_ok (h : e.compile table merging = .ok r) :
    ∃ ts order, e.tokens table = .ok ts ∧ (Token.graph ts).sort = .ok order ∧
      r = Routine.ofOrder e.name merging (order.filterMap (Token.withId? ts)) := by
  simp only [compile, bind_eq_ok] at h
  obtain ⟨ts, hts, h⟩ := h
  unfold Routine.ofTokens at h
  split at h
  · rename_i order horder
    cases h
    exact ⟨ts, order, hts, horder, rfl⟩
  all_goals cases h

structure Ordered (table : ModifierTable) (ts : List Token) : Prop where
  isOfUse : ∀ t ∈ ts, ∃ target position u, t.IsOfUse table target position u
  nodup : (ts.map (·.id)).Nodup
  before : ∀ t ∈ ts, ∀ t' ∈ ts, t.Precedes t' →
    (ts.map (·.id)).idxOf t.id < (ts.map (·.id)).idxOf t'.id

namespace Ordered

variable {ts : List Token}

theorem notSelf (h : Ordered table ts) : ∀ t ∈ ts, t.target ∉ t.references := by
  intro t ht
  obtain ⟨target, position, u, hof⟩ := h.isOfUse t ht
  exact hof.target_eq ▸ hof.notSelf

theorem pairwise (h : Ordered table ts) : ts.Pairwise fun t t' => ¬t'.Precedes t := by
  have hplaces : (ts.map (·.id)).Pairwise fun n n' =>
      (ts.map (·.id)).idxOf n < (ts.map (·.id)).idxOf n' := by
    rw [List.pairwise_iff_getElem]
    intro i j hi hj hij
    rwa [h.nodup.idxOf_getElem i hi, h.nodup.idxOf_getElem j hj]
  rw [List.pairwise_map] at hplaces
  refine hplaces.imp_of_mem fun {t t'} ht ht' hlt hprecedes => ?_
  have hgt := h.before t' ht' t ht hprecedes
  omega

end Ordered

theorem exists_ordered (htable : ∀ m ∈ table, '~' ∉ m.name.toList) (hfields : e.fieldNames.Nodup)
    (h : e.compile table merging = .ok r) :
    ∃ ts sorted, e.tokens table = .ok ts ∧ (∀ t, t ∈ sorted ↔ t ∈ ts) ∧
      Ordered table sorted ∧ r = Routine.ofOrder e.name merging sorted := by
  obtain ⟨ts, order, hts, hsort, rfl⟩ := compile_ok h
  have hids : (ts.map (·.id)).Nodup := by
    rw [List.Nodup, List.pairwise_map]
    exact ids_tokens htable hts hfields
  have huses : ∀ t ∈ ts, ∃ target position u, t.IsOfUse table target position u :=
    fun _ => isOfUse_of_mem_tokens hts
  obtain ⟨hnodup, hall, hbefore⟩ := Token.sort_graph_ok hids
    (fun _ => notSelf_of_mem_tokens hts) (positions_tokens hts hfields) hsort
  have hmap := Token.map_id_filterMap_withId? hids fun n hn => (hall n).mp hn
  have hmem : ∀ t, t ∈ order.filterMap (Token.withId? ts) ↔ t ∈ ts := by
    intro t
    simp only [List.mem_filterMap, Token.withId?_eq_some_iff hids]
    constructor
    · rintro ⟨_, _, ht, _⟩
      exact ht
    · intro ht
      exact ⟨t.id, (hall t.id).mpr ⟨t, ht, rfl⟩, ht, rfl⟩
  refine ⟨ts, _, hts, hmem, ⟨fun t ht => huses t ((hmem t).mp ht), ?_, ?_⟩, rfl⟩
  · rw [hmap]
    exact hnodup
  · rw [hmap]
    exact fun t ht t' ht' => hbefore t ((hmem t).mp ht) t' ((hmem t').mp ht')

theorem ordered_of_tokens (htable : ∀ m ∈ table, '~' ∉ m.name.toList)
    (hfields : e.fieldNames.Nodup) (h : e.compile table merging = .ok r) {ts : List Token}
    (hts : e.tokens table = .ok ts) : ∃ sorted, (∀ t, t ∈ sorted ↔ t ∈ ts) ∧
      Ordered table sorted ∧ r = Routine.ofOrder e.name merging sorted := by
  obtain ⟨ts', sorted, hts', hordered⟩ := exists_ordered htable hfields h
  cases hts.symm.trans hts'
  exact ⟨sorted, hordered⟩

end Entity

end FieldPipeline
