import Mathlib.Data.Fintype.Card
import Mathlib.Data.Fintype.EquivFin
import Mathlib.Data.List.Induction
import Mathlib.Data.List.Lex
import Mathlib.Data.List.Perm.Subperm
import FieldPipeline.Proofs.Graph.Edges

/-!
Arrangements of the nodes of a graph, in which each stands behind everything it depends on.  They
are compared by the ranks of their nodes.  A node can be arranged unless it waits for a cycle.
-/

namespace FieldPipeline.Graph

variable {α : Type} [BEq α] {g : Graph α}

/-! ### Ranks -/

def places (g : Graph α) (ns : List α) : List Nat :=
  ns.filterMap g.rank?

theorem lookup_zipIdx (ns : List α) (node : α) (start : Nat) :
    (ns.zipIdx start).lookup node = (ns.findIdx? (node == ·)).map (· + start) := by
  induction ns generalizing start with
  | nil => rfl
  | cons n ns ih =>
      rw [List.zipIdx_cons, List.lookup_cons, List.findIdx?_cons, ih]
      cases node == n <;> simp [Function.comp_def, Nat.add_comm, Nat.add_left_comm]

namespace Sound

section

variable (h : g.Sound)
include h

theorem pairwise_ranks : g.ranks.Pairwise fun r r' => r.2 < r'.2 := by
  rw [h.ranks, List.pairwise_iff_getElem]
  intro i j hi hj hij
  simpa using hij

theorem rank?_eq (node : α) : g.rank? node = g.nodes.findIdx? (node == ·) := by
  rw [rank?, h.ranks, lookup_zipIdx]
  simp

variable [EquivBEq α]

theorem isSome_rank? (node : α) : (g.rank? node).isSome = g.isRegistered node := by
  rw [h.rank?_eq, List.findIdx?_isSome, isRegistered_eq_contains, List.contains_eq_any_beq]

theorem exists_rank? {node : α} (hnode : g.isRegistered node = true) :
    ∃ r, g.rank? node = some r := by
  rw [← Option.isSome_iff_exists, h.isSome_rank?, hnode]

theorem registered_of_rank? {node : α} {r : Nat} (hr : g.rank? node = some r) :
    g.isRegistered node = true := by
  rw [← h.isSome_rank?, hr]
  rfl

theorem rank?_congr {n n' : α} (hbeq : (n == n') = true) : g.rank? n = g.rank? n' := by
  simp only [h.rank?_eq, BEq.congr_left hbeq]

omit [EquivBEq α] in
theorem rank?_lt {node : α} {r : Nat} (hr : g.rank? node = some r) : r < g.nodes.length := by
  rw [h.rank?_eq, List.findIdx?_eq_some_iff_getElem] at hr
  exact hr.1

theorem beq_of_rank? {n n' : α} {r : Nat} (hn : g.rank? n = some r) (hn' : g.rank? n' = some r) :
    (n == n') = true := by
  rw [h.rank?_eq, List.findIdx?_eq_some_iff_getElem] at hn hn'
  obtain ⟨_, hn, _⟩ := hn
  obtain ⟨_, hn', _⟩ := hn'
  exact BEq.trans hn (BEq.symm hn')

theorem rank?_getElem {i : Nat} (hi : i < g.nodes.length) : g.rank? g.nodes[i] = some i := by
  rw [h.rank?_eq, List.findIdx?_eq_some_iff_getElem]
  refine ⟨hi, BEq.rfl, fun j hj => ?_⟩
  have hdistinct := List.pairwise_iff_getElem.mp h.distinct j i (by omega) hi hj
  rw [BEq.comm, hdistinct]
  exact Bool.false_ne_true

theorem rank?_of_mem {node : α} {r : Nat} (hmem : (node, r) ∈ g.ranks) :
    g.rank? node = some r := by
  rw [h.ranks, List.mem_zipIdx_iff_getElem?, List.getElem?_eq_some_iff] at hmem
  obtain ⟨hr, hnode⟩ := hmem
  have hrank := h.rank?_getElem hr
  rwa [hnode] at hrank

theorem length_places {ns : List α} (hns : ∀ n ∈ ns, g.isRegistered n = true) :
    (g.places ns).length = ns.length := by
  induction ns with
  | nil => rfl
  | cons n ns ih =>
      obtain ⟨r, hr⟩ := h.exists_rank? (hns n (by simp))
      have hrest := ih fun n' hn' => hns n' (List.mem_cons_of_mem _ hn')
      rw [places] at hrest ⊢
      rw [List.filterMap_cons_some hr, List.length_cons, List.length_cons, hrest]

theorem mem_places_iff {ns : List α} {node : α} {r : Nat} (hr : g.rank? node = some r) :
    r ∈ g.places ns ↔ ns.contains node = true := by
  rw [places, List.mem_filterMap, List.contains_iff_exists_mem_beq]
  constructor
  · rintro ⟨n, hn, hn'⟩
    exact ⟨n, hn, h.beq_of_rank? hr hn'⟩
  · rintro ⟨n, hn, hbeq⟩
    exact ⟨n, hn, h.rank?_congr hbeq ▸ hr⟩

theorem nodup_places {ns : List α} (hns : Distinct ns) : (g.places ns).Nodup := by
  rw [places, List.Nodup, List.pairwise_filterMap]
  refine hns.imp fun hne r hr r' hr' hrr' => ?_
  rw [h.beq_of_rank? hr (hrr' ▸ hr')] at hne
  cases hne

theorem beq_of_places {ns ns' : List α} (hns : ∀ n ∈ ns, g.isRegistered n = true)
    (hns' : ∀ n ∈ ns', g.isRegistered n = true) (hplaces : g.places ns = g.places ns') :
    List.Forall₂ (fun n n' => (n == n') = true) ns ns' := by
  induction ns generalizing ns' with
  | nil =>
      have hlength := h.length_places hns'
      rw [← hplaces] at hlength
      rw [List.length_eq_zero_iff.mp hlength.symm]
      exact .nil
  | cons n ns ih =>
      obtain ⟨r, hr⟩ := h.exists_rank? (hns n (by simp))
      cases ns' with
      | nil => simp [places, hr] at hplaces
      | cons n' ns' =>
          obtain ⟨r', hr'⟩ := h.exists_rank? (hns' n' (by simp))
          rw [places, places, List.filterMap_cons_some hr, List.filterMap_cons_some hr',
            List.cons.injEq] at hplaces
          refine .cons (h.beq_of_rank? hr (hplaces.1 ▸ hr')) ?_
          exact ih (fun m hm => hns m (List.mem_cons_of_mem _ hm))
            (fun m hm => hns' m (List.mem_cons_of_mem _ hm)) hplaces.2

end

end Sound

/-! ### Arrangements -/

variable [EquivBEq α]

structure Arranged (g : Graph α) (done : List α) : Prop where
  distinct : Distinct done
  registered : ∀ n ∈ done, g.isRegistered n = true
  behind : ∀ before n after, done = before ++ n :: after →
    ∀ d, g.Needs n d → before.contains d = true

structure Lists (g : Graph α) (order : List α) : Prop extends g.Arranged order where
  complete : ∀ n, g.isRegistered n = true → order.contains n = true

namespace Arranged

variable {done : List α}

omit [EquivBEq α] in
theorem nil (g : Graph α) : g.Arranged [] := by
  constructor <;> simp [Distinct]

theorem append (h : g.Arranged done) {node : α} (hnode : g.isRegistered node = true)
    (hnew : done.contains node = false) (hready : ∀ d, g.Needs node d → done.contains d = true) :
    g.Arranged (done ++ [node]) where
  distinct := distinct_append_singleton h.distinct hnew
  registered n hn := by
    rcases List.mem_append.mp hn with hn | hn
    · exact h.registered n hn
    · rw [List.mem_singleton] at hn
      exact hn ▸ hnode
  behind before n after hsplit d hd := by
    rcases List.eq_nil_or_concat after with rfl | ⟨after, last, rfl⟩
    · obtain ⟨rfl, hlast⟩ := List.append_inj' hsplit rfl
      cases hlast
      exact hready d hd
    · have hsplit' : done ++ [node] = (before ++ n :: after) ++ [last] := by simpa using hsplit
      obtain ⟨rfl, _⟩ := List.append_inj' hsplit' rfl
      exact h.behind before n after rfl d hd

theorem contains_of_needs (h : g.Arranged done) {n d : α} (hn : done.contains n = true)
    (hd : g.Needs n d) : done.contains d = true := by
  obtain ⟨m, hm, hbeq⟩ := List.contains_iff_exists_mem_beq.mp hn
  obtain ⟨before, after, hsplit⟩ := List.append_of_mem hm
  have hbefore := h.behind before m after hsplit d ((needs_congr hbeq BEq.rfl).mp hd)
  rw [hsplit, List.contains_append, hbefore, Bool.true_or]

theorem subperm (h : g.Arranged done) (hg : g.Sound) :
    (g.places done).Subperm (List.range g.nodes.length) := by
  refine List.subperm_of_subset (hg.nodup_places h.distinct) fun r hr => ?_
  obtain ⟨n, _, hr⟩ := List.mem_filterMap.mp hr
  exact List.mem_range.mpr (hg.rank?_lt hr)

theorem complete_of_length (h : g.Arranged done) (hg : g.Sound)
    (hlength : g.nodes.length ≤ done.length) {n : α} (hn : g.isRegistered n = true) :
    done.contains n = true := by
  obtain ⟨r, hr⟩ := hg.exists_rank? hn
  have hperm := (h.subperm hg).perm_of_length_le (by
    rw [List.length_range, hg.length_places h.registered]
    exact hlength)
  rw [← hg.mem_places_iff hr, hperm.mem_iff, List.mem_range]
  exact hg.rank?_lt hr

theorem length_of_complete (h : g.Arranged done) (hg : g.Sound)
    (hall : ∀ n, g.isRegistered n = true → done.contains n = true) :
    done.length = g.nodes.length := by
  have hle := (h.subperm hg).length_le
  have hge : (List.range g.nodes.length).Subperm (g.places done) := by
    refine List.subperm_of_subset List.nodup_range fun r hr => ?_
    have hrank := hg.rank?_getElem (List.mem_range.mp hr)
    exact (hg.mem_places_iff hrank).mpr (hall _ (hg.registered_of_rank? hrank))
  have hge' := hge.length_le
  rw [List.length_range, hg.length_places h.registered] at hle hge'
  omega

end Arranged

/-! ### Cycles -/

def Acyclic (g : Graph α) : Prop :=
  ∀ n, ¬Relation.TransGen g.Needs n n

def Stuck (g : Graph α) (node : α) : Prop :=
  ∃ m, Relation.ReflTransGen g.Needs node m ∧ Relation.TransGen g.Needs m m

omit [EquivBEq α] in
theorem Stuck.of_needs {n d : α} (hd : g.Stuck d) (hneeds : g.Needs n d) : g.Stuck n := by
  obtain ⟨m, hpath, hcycle⟩ := hd
  exact ⟨m, .head hneeds hpath, hcycle⟩

omit [EquivBEq α] in
theorem Stuck.exists_needs {n : α} (hn : g.Stuck n) : ∃ d, g.Needs n d ∧ g.Stuck d := by
  obtain ⟨m, hpath, hcycle⟩ := hn
  rcases Relation.ReflTransGen.cases_head hpath with rfl | ⟨d, hneeds, hpath⟩
  · obtain ⟨d, hneeds, hback⟩ := Relation.TransGen.head'_iff.mp hcycle
    exact ⟨d, hneeds, n, hback, hcycle⟩
  · exact ⟨d, hneeds, m, hpath, hcycle⟩

theorem stuck_congr {n n' : α} (hbeq : (n == n') = true) (hn : g.Stuck n) : g.Stuck n' := by
  obtain ⟨d, hneeds, hd⟩ := hn.exists_needs
  exact hd.of_needs ((needs_congr hbeq BEq.rfl).mp hneeds)

theorem Arranged.not_stuck {done : List α} (h : g.Arranged done) {n : α}
    (hn : done.contains n = true) : ¬g.Stuck n := by
  have hpart : ∀ before after, done = before ++ after →
      ∀ n, before.contains n = true → ¬g.Stuck n := by
    intro before
    induction before using List.reverseRecOn with
    | nil => simp
    | append_singleton before m ih =>
        intro after hsplit n hn hstuck
        rw [List.append_assoc, List.singleton_append] at hsplit
        rw [List.contains_append, Bool.or_eq_true] at hn
        rcases hn with hn | hn
        · exact ih (m :: after) hsplit n hn hstuck
        · have hbeq : (n == m) = true := by simpa using hn
          obtain ⟨d, hneeds, hd⟩ := (stuck_congr hbeq hstuck).exists_needs
          exact ih (m :: after) hsplit d (h.behind before m after hsplit d hneeds) hd
  exact hpart done [] (List.append_nil done).symm n hn

/-- In a finite graph, what waits for no cycle has everything below it well founded. -/
theorem Sound.acc (hg : g.Sound) {n : α} (hn : ¬g.Stuck n) :
    Acc (fun d n => g.Needs n d) n := by
  let below : Fin g.nodes.length → Fin g.nodes.length → Prop := fun i j =>
    ¬g.Stuck g.nodes[j] ∧ Relation.TransGen g.Needs g.nodes[j] g.nodes[i]
  have htrans : IsTrans _ below := ⟨fun _ _ _ hij hjk => ⟨hjk.1, hjk.2.trans hij.2⟩⟩
  have hirrefl : Std.Irrefl below := ⟨fun _ hii => hii.1 ⟨_, .refl, hii.2⟩⟩
  have hwf : WellFounded below := Finite.wellFounded_of_trans_of_irrefl below
  have hplace : ∀ d, g.isRegistered d = true →
      ∃ i : Fin g.nodes.length, (d == g.nodes[i]) = true := by
    intro d hd
    obtain ⟨r, hr⟩ := hg.exists_rank? hd
    exact ⟨⟨r, hg.rank?_lt hr⟩, hg.beq_of_rank? hr (hg.rank?_getElem (hg.rank?_lt hr))⟩
  have hnodes : ∀ i : Fin g.nodes.length, ∀ n, (n == g.nodes[i]) = true → ¬g.Stuck n →
      Acc (fun d n => g.Needs n d) n := by
    intro i
    induction i using hwf.induction with
    | _ i ih =>
        intro n hbeq hn
        refine Acc.intro n fun d hd => ?_
        obtain ⟨j, hj⟩ := hplace d (hg.registered n d hd).2
        have hbelow : below j i :=
          ⟨fun hstuck => hn (stuck_congr (BEq.symm hbeq) hstuck),
            .single ((needs_congr hbeq hj).mp hd)⟩
        exact ih j hbelow d hj fun hstuck => hn (hstuck.of_needs hd)
  refine Acc.intro n fun d hd => ?_
  obtain ⟨j, hj⟩ := hplace d (hg.registered n d hd).2
  exact hnodes j d hj fun hstuck => hn (hstuck.of_needs hd)

/-- What may come next cannot run out before all nodes are done that wait for no cycle. -/
theorem Sound.contains_of_not_stuck (hg : g.Sound) {done : List α}
    (hstop : ∀ n, g.isRegistered n = true → (∀ d, g.Needs n d → done.contains d = true) →
      done.contains n = true)
    {n : α} (hn : g.isRegistered n = true) (hfree : ¬g.Stuck n) : done.contains n = true := by
  induction hg.acc hfree with
  | intro n _ ih =>
      refine hstop n hn fun d hd => ih d hd (hg.registered n d hd).2 ?_
      exact fun hstuck => hfree (hstuck.of_needs hd)

/-! ### The least arrangement -/

def AtMost (a b : List Nat) : Prop :=
  a = b ∨ List.Lex (· < ·) a b

theorem AtMost.append_left {b c : List Nat} (h : AtMost b c) (a : List Nat) :
    AtMost (a ++ b) (a ++ c) := by
  rcases h with rfl | h
  · exact .inl rfl
  · exact .inr (List.Lex.append_left (· < ·) h a)

theorem atMost_singleton {x y : Nat} (h : x ≤ y) (b : List Nat) : AtMost [x] (y :: b) := by
  rcases Nat.lt_or_eq_of_le h with h | rfl
  · exact .inr (.rel h)
  · cases b with
    | nil => exact .inl rfl
    | cons z b => exact .inr (.cons .nil)

theorem AtMost.append_right {a b : List Nat} (h : AtMost a b) (hstart : ¬a <+: b) (c : List Nat) :
    AtMost (a ++ c) b := by
  rcases h with rfl | h
  · exact absurd List.prefix_rfl hstart
  · refine .inr ?_
    induction h with
    | nil => exact absurd List.nil_prefix hstart
    | rel hlt => exact .rel hlt
    | cons _ ih => exact .cons (ih fun hp => hstart (List.cons_prefix_cons.mpr ⟨rfl, hp⟩))

theorem AtMost.antisymm {a b : List Nat} (h : AtMost a b) (h' : AtMost b a) : a = b := by
  rcases h with rfl | h
  · rfl
  · rcases h' with rfl | h'
    · rfl
    · exfalso
      induction h with
      | nil => cases h'
      | rel hlt =>
          cases h' with
          | rel hlt' => omega
          | cons _ => omega
      | cons _ ih =>
          cases h' with
          | rel hlt => omega
          | cons h' => exact ih h'

/-- The node of lowest rank of those that may come next keeps an arrangement least. -/
theorem Sound.atMost_append (hg : g.Sound) {done : List α} {node : α} {rank : Nat}
    (hrank : g.rank? node = some rank) (hnew : done.contains node = false)
    (hlowest : ∀ n r, g.rank? n = some r → done.contains n = false →
      (∀ d, g.Needs n d → done.contains d = true) → rank ≤ r)
    {other : List α} (hother : g.Lists other) (hle : AtMost (g.places done) (g.places other)) :
    AtMost (g.places (done ++ [node])) (g.places other) := by
  have happend : g.places (done ++ [node]) = g.places done ++ [rank] := by simp [places, hrank]
  rw [happend]
  by_cases hstart : g.places done <+: g.places other
  · obtain ⟨rest, hrest⟩ := hstart
    obtain ⟨front, back, rfl, hfront, hback⟩ := List.filterMap_eq_append_iff.mp hrest.symm
    have hsame : ∀ n, g.isRegistered n = true → front.contains n = done.contains n := by
      intro n hn
      obtain ⟨r, hr⟩ := hg.exists_rank? hn
      rw [Bool.eq_iff_iff, ← hg.mem_places_iff hr, ← hg.mem_places_iff hr, ← hfront]
      rfl
    have hnode := hg.registered_of_rank? hrank
    cases back with
    | nil =>
        have hcontains := hother.complete node hnode
        rw [List.append_nil, hsame node hnode, hnew] at hcontains
        cases hcontains
    | cons first back =>
        have hfirst := hother.registered first (by simp)
        obtain ⟨r, hr⟩ := hg.exists_rank? hfirst
        have hle' : rank ≤ r := by
          refine hlowest first r hr ?_ fun d hd => ?_
          · rw [← hsame first hfirst, ← Bool.not_eq_true, List.contains_iff_exists_mem_beq]
            rintro ⟨n, hn, hbeq⟩
            have hne := (List.pairwise_append.mp hother.distinct).2.2 n hn first (by simp)
            rw [BEq.symm hbeq] at hne
            cases hne
          · rw [← hsame d (hg.registered first d hd).2]
            exact hother.behind front first back rfl d hd
        rw [← hrest]
        refine AtMost.append_left ?_ _
        rw [← hback, List.filterMap_cons_some hr]
        exact atMost_singleton hle' _
  · exact hle.append_right hstart [rank]

end FieldPipeline.Graph
