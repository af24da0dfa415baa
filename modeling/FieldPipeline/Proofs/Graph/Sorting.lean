import FieldPipeline.Proofs.Graph.Arrangement

/-!
Sorting a graph.  Between two steps the counters of a sort tell how many dependencies of each node
are not done, and the queue holds the nodes that have none left.  So every step adds the node of
lowest rank that may come next, and the order that comes out is the least arrangement.
-/

namespace FieldPipeline

namespace Sorting

variable {α : Type}

theorem mem_enqueue {entry e : Nat × α} {ready : List (Nat × α)} :
    e ∈ enqueue entry ready ↔ e = entry ∨ e ∈ ready := by
  induction ready with
  | nil => simp [enqueue]
  | cons first ready ih =>
      rw [enqueue]
      split
      · simp
      · simp only [List.mem_cons, ih, or_left_comm]

theorem pairwise_enqueue {entry : Nat × α} {ready : List (Nat × α)}
    (h : ready.Pairwise fun e e' => e.1 < e'.1) (hnew : ∀ e ∈ ready, e.1 ≠ entry.1) :
    (enqueue entry ready).Pairwise fun e e' => e.1 < e'.1 := by
  induction ready with
  | nil => simp [enqueue]
  | cons first ready ih =>
      rw [List.pairwise_cons] at h
      rw [enqueue]
      split
      · rename_i hlt
        refine List.pairwise_cons.mpr ⟨fun e he => ?_, List.pairwise_cons.mpr h⟩
        rcases List.mem_cons.mp he with rfl | he
        · exact hlt
        · exact Nat.lt_trans hlt (h.1 e he)
      · rename_i hge
        refine List.pairwise_cons.mpr
          ⟨fun e he => ?_, ih h.2 fun e he => hnew e (List.mem_cons_of_mem _ he)⟩
        rcases mem_enqueue.mp he with rfl | he
        · have hne := hnew first (by simp)
          omega
        · exact h.1 e he

theorem look_map [BEq α] [EquivBEq α] {β : Type} {ns : List α} {node : α} {f : α → β}
    (hnode : ns.contains node = true) (hf : ∀ n n', (n == n') = true → f n = f n') :
    look node (ns.map fun n => (n, f n)) = .ok (f node) := by
  unfold look
  induction ns with
  | nil => simp at hnode
  | cons n ns ih =>
      rw [List.map_cons, List.lookup_cons]
      cases hbeq : node == n with
      | true => rw [hf node n hbeq]
      | false =>
          rw [List.contains_cons, hbeq, Bool.false_or] at hnode
          exact ih hnode

end Sorting

namespace Graph

variable {α : Type} [BEq α] [EquivBEq α] {g : Graph α} {s : Sorting α}

/-! ### What a step does -/

/-- A sort whose counters have certain values, and whose queue holds the nodes that are not done
and whose counter is zero. -/
structure Counts (g : Graph α) (counter : α → Int) (s : Sorting α) : Prop where
  degrees : s.degrees = g.nodes.map fun n => (n, counter n)
  ascending : s.ready.Pairwise fun e e' => e.1 < e'.1
  ranked : ∀ e ∈ s.ready, g.rank? e.2 = some e.1
  ready : ∀ n, (∃ e ∈ s.ready, (e.2 == n) = true) ↔
    g.isRegistered n = true ∧ s.done.contains n = false ∧ counter n = 0

def lowered (ns : List α) (counter : α → Int) (n : α) : Int :=
  if ns.contains n then counter n - 1 else counter n

theorem lowered_congr {counter : α → Int}
    (h : ∀ n n', (n == n') = true → counter n = counter n') (ns : List α) {n n' : α}
    (hbeq : (n == n') = true) : lowered ns counter n = lowered ns counter n' := by
  rw [lowered, lowered, List.contains_congr hbeq, h n n' hbeq]

theorem lowered_cons {node : α} {ns : List α} (h : Distinct (node :: ns)) (counter : α → Int) :
    lowered ns (lowered [node] counter) = lowered (node :: ns) counter := by
  funext n
  rw [lowered, lowered, lowered, List.contains_cons, List.contains_cons]
  cases hn : n == node with
  | true => simp [List.contains_congr hn, (distinct_cons h).1]
  | false => simp

theorem Counts.release {counter : α → Int} (h : g.Counts counter s) (hg : g.Sound)
    (hcounter : ∀ n n', (n == n') = true → counter n = counter n') {node : α}
    (hnode : g.isRegistered node = true) (hnew : s.done.contains node = false)
    (hpositive : 1 ≤ counter node) :
    ∃ s', g.release s node = .ok s' ∧ s'.done = s.done ∧
      g.Counts (lowered [node] counter) s' := by
  obtain ⟨rank, hrank⟩ := hg.exists_rank? hnode
  have hdegree : Sorting.look node s.degrees = .ok (counter node) := by
    rw [h.degrees]
    exact Sorting.look_map (by rwa [← isRegistered_eq_contains]) hcounter
  have hlook : Sorting.look node g.ranks = .ok rank := by
    rw [Sorting.look, show g.ranks.lookup node = some rank from hrank]
  have hdegrees : (s.lower node).degrees =
      g.nodes.map fun n => (n, lowered [node] counter n) := by
    simp only [Sorting.lower, h.degrees, List.map_map]
    refine List.map_congr_left fun n _ => ?_
    cases hn : n == node <;> simp [lowered, hn]
  have habsent : ¬∃ e ∈ s.ready, (e.2 == node) = true := by
    rw [h.ready]
    omega
  simp only [Graph.release, hdegree, hlook, bind, Except.bind, pure, Except.pure]
  split
  · rename_i hzero
    have hranks : ∀ e ∈ s.ready, e.1 ≠ rank := by
      intro e he hsame
      exact habsent ⟨e, he, hg.beq_of_rank? (hsame ▸ h.ranked e he) hrank⟩
    refine ⟨_, rfl, rfl, hdegrees, Sorting.pairwise_enqueue h.ascending hranks, ?_, fun n => ?_⟩
    · intro e he
      rcases Sorting.mem_enqueue.mp he with rfl | he
      · exact hrank
      · exact h.ranked e he
    · have hsplit : (∃ e ∈ Sorting.enqueue (rank, node) s.ready, (e.2 == n) = true) ↔
          (node == n) = true ∨ ∃ e ∈ s.ready, (e.2 == n) = true := by
        simp [Sorting.mem_enqueue, or_and_right, exists_or]
      refine hsplit.trans ?_
      rw [h.ready n, BEq.comm]
      cases hn : n == node with
      | true =>
          have hdone : s.done.contains n = false := (List.contains_congr hn).trans hnew
          simp [(g.isRegistered_congr hn).trans hnode, hdone, hcounter n node hn, hzero,
            Sorting.push, Sorting.lower, lowered, hn]
      | false => simp [Sorting.push, Sorting.lower, lowered, hn]
  · rename_i hzero
    refine ⟨_, rfl, rfl, hdegrees, h.ascending, h.ranked, fun n => ?_⟩
    refine (h.ready n).trans ?_
    cases hn : n == node with
    | true =>
        have hpos := hcounter n node hn
        simp only [Sorting.lower, lowered, List.contains_cons, hn, Bool.true_or, if_true]
        omega
    | false => simp [Sorting.lower, lowered, hn]

theorem Counts.foldlM_release {counter : α → Int} (h : g.Counts counter s) (hg : g.Sound)
    (hcounter : ∀ n n', (n == n') = true → counter n = counter n') {ns : List α}
    (hdistinct : Distinct ns) (hns : ∀ n ∈ ns, g.isRegistered n = true ∧
      s.done.contains n = false ∧ 1 ≤ counter n) :
    ∃ s', ns.foldlM g.release s = .ok s' ∧ s'.done = s.done ∧
      g.Counts (lowered ns counter) s' := by
  -- every node that is released changes the counters with which the next one is met
  induction ns generalizing counter s with
  | nil => exact ⟨s, rfl, rfl, h⟩
  | cons node ns ih =>
      obtain ⟨hnode, hnew, hpositive⟩ := hns node (by simp)
      obtain ⟨s₁, hs₁, hdone, h₁⟩ := h.release hg hcounter hnode hnew hpositive
      obtain ⟨hnone, hrest⟩ := distinct_cons hdistinct
      have hns₁ : ∀ n ∈ ns, g.isRegistered n = true ∧ s₁.done.contains n = false ∧
          1 ≤ lowered [node] counter n := by
        intro n hn
        obtain ⟨hregistered, hcontains, hone⟩ := hns n (by simp [hn])
        have hother : [node].contains n = false := by
          rw [Distinct, List.pairwise_cons] at hdistinct
          simpa [BEq.comm] using hdistinct.1 n hn
        rw [hdone, lowered, hother]
        exact ⟨hregistered, hcontains, hone⟩
      obtain ⟨s', hs', hdone', h'⟩ := ih h₁ (fun _ _ => lowered_congr hcounter _) hrest hns₁
      refine ⟨s', ?_, hdone'.trans hdone, lowered_cons hdistinct counter ▸ h'⟩
      rw [List.foldlM_cons, hs₁]
      exact hs'

def left (g : Graph α) (done : List α) (node : α) : Int :=
  (g.dependenciesOf node).countP fun d => !done.contains d

theorem left_congr (done : List α) {n n' : α} (h : (n == n') = true) :
    g.left done n = g.left done n' := by
  rw [left, left, g.dependenciesOf_congr h]

theorem left_eq_zero_iff {done : List α} {n : α} :
    g.left done n = 0 ↔ ∀ d, g.Needs n d → done.contains d = true := by
  simp only [left, Int.natCast_eq_zero, List.countP_eq_zero, Bool.not_eq_true', Bool.not_eq_false,
    Needs, List.contains_iff_exists_mem_beq]
  constructor
  · rintro h d ⟨d', hd', hbeq⟩
    obtain ⟨n', hn', hbeq'⟩ := h d' hd'
    exact ⟨n', hn', BEq.trans hbeq hbeq'⟩
  · exact fun h d hd => h d ⟨d, hd, BEq.rfl⟩

theorem Sound.left_append (hg : g.Sound) {done : List α} {node : α}
    (hnew : done.contains node = false) (n : α) :
    g.left (done ++ [node]) n =
      if (g.dependenciesOf n).contains node then g.left done n - 1 else g.left done n := by
  have hdistinct := hg.dependencies n
  unfold left
  generalize g.dependenciesOf n = ds at hdistinct
  induction ds with
  | nil => rfl
  | cons d ds ih =>
      obtain ⟨hnone, htail⟩ := distinct_cons hdistinct
      have hrest := ih htail
      rw [List.countP_cons, List.countP_cons, List.contains_cons, List.contains_append]
      cases hd : node == d with
      | true =>
          rw [← List.contains_congr hd] at hnone
          have hdone : done.contains d = false := by rw [← List.contains_congr hd, hnew]
          have hsingle : [node].contains d = true := by simpa using BEq.symm hd
          simp only [hnone, Bool.false_eq_true, if_false] at hrest
          simp only [hdone, hsingle, Bool.or_true, Bool.true_or, Bool.not_true, Bool.not_false,
            Bool.false_eq_true, if_true, if_false]
          omega
      | false =>
          have hd' : (d == node) = false := by rw [BEq.comm, hd]
          have hsingle : [node].contains d = false := by simpa using hd'
          rw [hsingle, Bool.or_false, Bool.false_or]
          split at hrest <;> split <;> omega

/-! ### What a run does -/

/-- A sort between two steps. -/
structure Tracks (g : Graph α) (s : Sorting α) : Prop where
  arranged : g.Arranged s.done
  counts : g.Counts (g.left s.done) s

theorem Tracks.ready_iff (h : g.Tracks s) (n : α) :
    (∃ e ∈ s.ready, (e.2 == n) = true) ↔ g.isRegistered n = true ∧ s.done.contains n = false ∧
      ∀ d, g.Needs n d → s.done.contains d = true := by
  rw [h.counts.ready, left_eq_zero_iff]

theorem degreeOf_congr {n n' : α} (h : (n == n') = true) : g.degreeOf n = g.degreeOf n' := by
  rw [degreeOf, degreeOf, g.dependenciesOf_congr h]

theorem Sound.tracks_begun (hg : g.Sound) : g.Tracks g.begun := by
  have hleft : ∀ n, g.left [] n = g.degreeOf n := by simp [left, degreeOf]
  refine ⟨Arranged.nil g, ?_, ?_, ?_, fun n => ?_⟩
  · simp only [begun, hleft]
  · simp only [begun, List.pairwise_map]
    exact hg.pairwise_ranks.filter _
  · intro e he
    simp only [begun, List.mem_map, List.mem_filter] at he
    obtain ⟨r, ⟨hr, _⟩, rfl⟩ := he
    exact hg.rank?_of_mem hr
  · simp only [begun, List.mem_map, List.mem_filter, hleft, List.contains_nil, true_and]
    constructor
    · rintro ⟨_, ⟨r, ⟨hr, hdegree⟩, rfl⟩, hbeq⟩
      have hrank := hg.rank?_of_mem hr
      rw [← g.isRegistered_congr hbeq]
      refine ⟨hg.registered_of_rank? hrank, ?_⟩
      have hsame : g.degreeOf r.1 = g.degreeOf n := degreeOf_congr hbeq
      rw [← hsame]
      simpa using hdegree
    · rintro ⟨hn, hdegree⟩
      obtain ⟨r, hr⟩ := hg.exists_rank? hn
      have hlt := hg.rank?_lt hr
      have hbeq := hg.beq_of_rank? (hg.rank?_getElem hlt) hr
      refine ⟨(r, g.nodes[r]), ⟨(g.nodes[r], r), ⟨?_, ?_⟩, rfl⟩, hbeq⟩
      · rw [hg.ranks, List.mem_zipIdx_iff_getElem?]
        exact List.getElem?_eq_getElem hlt
      · rw [degreeOf_congr hbeq]
        simpa using hdegree

theorem Counts.pop {counter : α → Int} (h : g.Counts counter s) (hg : g.Sound) {rank : Nat}
    {node : α} {rest : List (Nat × α)} (hready : s.ready = (rank, node) :: rest) :
    g.Counts counter { s with ready := rest, done := s.done ++ [node] } := by
  have hrank := h.ranked (rank, node) (by simp [hready])
  have hascending := h.ascending
  rw [hready, List.pairwise_cons] at hascending
  refine ⟨h.degrees, hascending.2, fun e he => h.ranked e (by simp [hready, he]), fun n => ?_⟩
  have hold := h.ready n
  simp only [hready, List.mem_cons, exists_eq_or_imp] at hold
  rw [List.contains_append, Bool.or_eq_false_iff]
  constructor
  · rintro ⟨e, he, hbeq⟩
    obtain ⟨hn, hcontains, hzero⟩ := hold.mp (.inr ⟨e, he, hbeq⟩)
    refine ⟨hn, ⟨hcontains, ?_⟩, hzero⟩
    by_contra hne
    have hsame : (e.2 == node) = true := BEq.trans hbeq (by simpa using hne)
    have hranks := h.ranked e (by simp [hready, he])
    rw [hg.rank?_congr hsame, hrank, Option.some_inj] at hranks
    have hlt := hascending.1 e he
    omega
  · rintro ⟨hn, ⟨hcontains, hne⟩, hzero⟩
    rcases hold.mpr ⟨hn, hcontains, hzero⟩ with hbeq | hrest
    · have hsingle : [node].contains n = true := by simpa using BEq.symm hbeq
      rw [hsingle] at hne
      cases hne
    · exact hrest

theorem Arranged.waits_of_dependent {done : List α} (h : g.Arranged done) (hg : g.Sound)
    {node : α} (hnew : done.contains node = false)
    (hdone : ∀ d, g.Needs node d → done.contains d = true) {n : α}
    (hn : n ∈ g.dependentsOf node) :
    g.isRegistered n = true ∧ (done ++ [node]).contains n = false ∧ 1 ≤ g.left done n := by
  have hneeds : g.Needs n node := by
    rw [Needs, ← hg.mirrored]
    exact List.contains_iff_exists_mem_beq.mpr ⟨n, hn, BEq.rfl⟩
  have hwaits : ¬∀ d, g.Needs n d → done.contains d = true := by
    intro hall
    rw [hall node hneeds] at hnew
    cases hnew
  refine ⟨(hg.registered n node hneeds).1, ?_, ?_⟩
  · rw [← Bool.not_eq_true, List.contains_append, Bool.or_eq_true]
    rintro (hcontains | hsame)
    · exact hwaits fun d hd => h.contains_of_needs hcontains hd
    · have hbeq : (n == node) = true := by simpa using hsame
      exact hwaits fun d hd => hdone d ((needs_congr hbeq BEq.rfl).mp hd)
  · rw [← left_eq_zero_iff] at hwaits
    have hnonneg : 0 ≤ g.left done n := Int.natCast_nonneg _
    omega

theorem Tracks.head (h : g.Tracks s) (hg : g.Sound) {rank : Nat} {node : α}
    {rest : List (Nat × α)} (hready : s.ready = (rank, node) :: rest) :
    g.rank? node = some rank ∧ s.done.contains node = false ∧
      (∀ d, g.Needs node d → s.done.contains d = true) ∧
      ∀ n r, g.rank? n = some r → s.done.contains n = false →
        (∀ d, g.Needs n d → s.done.contains d = true) → rank ≤ r := by
  have hentry : (rank, node) ∈ s.ready := by simp [hready]
  obtain ⟨_, hnew, hdone⟩ := (h.ready_iff node).mp ⟨_, hentry, BEq.rfl⟩
  refine ⟨h.counts.ranked _ hentry, hnew, hdone, fun n r hr hn hneeds => ?_⟩
  obtain ⟨e, he, hbeq⟩ := (h.ready_iff n).mpr ⟨hg.registered_of_rank? hr, hn, hneeds⟩
  have hranks := h.counts.ranked e he
  rw [hg.rank?_congr hbeq, hr, Option.some_inj] at hranks
  have hascending := h.counts.ascending
  rw [hready, List.pairwise_cons] at hascending
  rw [hready, List.mem_cons] at he
  rcases he with rfl | he
  · exact Nat.le_of_eq hranks.symm
  · have hlt := hascending.1 e he
    omega

theorem Tracks.finish (h : g.Tracks s) (hg : g.Sound) {rank : Nat} {node : α}
    {rest : List (Nat × α)} (hready : s.ready = (rank, node) :: rest) :
    ∃ s', g.finish { s with ready := rest } node = .ok s' ∧ s'.done = s.done ++ [node] ∧
      g.Tracks s' := by
  obtain ⟨hrank, hnew, hdone, _⟩ := h.head hg hready
  obtain ⟨s', hs', hdone', h'⟩ := (h.counts.pop hg hready).foldlM_release hg
    (fun _ _ => left_congr s.done) (hg.dependents node)
    fun n hn => h.arranged.waits_of_dependent hg hnew hdone hn
  refine ⟨s', hs', hdone', ?_, ?_⟩
  · rw [hdone']
    exact h.arranged.append (hg.registered_of_rank? hrank) hnew hdone
  · have hsame : lowered (g.dependentsOf node) (g.left s.done) = g.left s'.done := by
      funext n
      rw [lowered, hdone', hg.left_append hnew, hg.mirrored]
    rwa [hsame] at h'

/-- A run goes on until nothing may come next, and what it adds keeps the arrangement least. -/
theorem Tracks.advance (h : g.Tracks s) (hg : g.Sound) {steps : Nat}
    (hsteps : g.nodes.length ≤ steps + s.done.length) :
    ∃ s', g.advance steps s = .ok s' ∧ g.Tracks s' ∧ s'.ready = [] ∧
      ∀ other, g.Lists other → AtMost (g.places s.done) (g.places other) →
        AtMost (g.places s'.done) (g.places other) := by
  induction steps generalizing s with
  | zero =>
      -- as many nodes are done as there are, so none can be in the queue
      refine ⟨s, rfl, h, ?_, fun _ _ hle => hle⟩
      by_contra hready
      obtain ⟨e, he⟩ := List.exists_mem_of_ne_nil _ hready
      obtain ⟨hnode, hnew, _⟩ := (h.ready_iff e.2).mp ⟨e, he, BEq.rfl⟩
      rw [h.arranged.complete_of_length hg (by omega) hnode] at hnew
      cases hnew
  | succ steps ih =>
      cases hready : s.ready with
      | nil =>
          refine ⟨s, ?_, h, hready, fun _ _ hle => hle⟩
          simp only [Graph.advance, hready]
      | cons entry rest =>
          obtain ⟨rank, node⟩ := entry
          obtain ⟨s₁, hs₁, hdone₁, h₁⟩ := h.finish hg hready
          obtain ⟨hrank, hnew, _, hlowest⟩ := h.head hg hready
          have hsteps₁ : g.nodes.length ≤ steps + s₁.done.length := by
            rw [hdone₁, List.length_append, List.length_singleton]
            omega
          obtain ⟨s', hs', h', hempty, hleast⟩ := ih h₁ hsteps₁
          refine ⟨s', ?_, h', hempty, fun other hother hle => hleast other hother ?_⟩
          · simp only [Graph.advance, hready, hs₁]
            exact hs'
          · rw [hdone₁]
            exact hg.atMost_append hrank hnew hlowest hother hle

theorem Tracks.contains_iff (h : g.Tracks s) (hg : g.Sound) (hempty : s.ready = []) {n : α}
    (hn : g.isRegistered n = true) : s.done.contains n = true ↔ ¬g.Stuck n := by
  refine ⟨h.arranged.not_stuck, hg.contains_of_not_stuck (fun m hm hneeds => ?_) hn⟩
  by_contra hnew
  obtain ⟨e, he, _⟩ := (h.ready_iff m).mpr ⟨hm, by simpa using hnew, hneeds⟩
  rw [hempty] at he
  cases he

theorem Tracks.mem_waiting_iff (h : g.Tracks s) (hg : g.Sound) (hempty : s.ready = []) {n : α}
    (hn : n ∈ g.nodes) : n ∈ s.waiting ↔ g.Stuck n := by
  have hregistered : g.isRegistered n = true := by
    rw [isRegistered_eq_contains]
    exact List.contains_iff_exists_mem_beq.mpr ⟨n, hn, BEq.rfl⟩
  have hmem : n ∈ s.waiting ↔ g.left s.done n ≠ 0 := by
    simp [Sorting.waiting, h.counts.degrees, hn]
  rw [hmem, ← not_iff_not, not_not, ← h.contains_iff hg hempty hregistered, left_eq_zero_iff]
  refine ⟨fun hneeds => ?_, fun hcontains d hd => h.arranged.contains_of_needs hcontains hd⟩
  by_contra hnew
  obtain ⟨e, he, _⟩ := (h.ready_iff n).mpr ⟨hregistered, by simpa using hnew, hneeds⟩
  rw [hempty] at he
  cases he

structure Least (g : Graph α) (order : List α) : Prop extends g.Lists order where
  least : ∀ other, g.Lists other → AtMost (g.places order) (g.places other)

structure Waits (g : Graph α) (waiting : List α) : Prop where
  sublist : waiting.Sublist g.nodes
  stuck : ∀ n ∈ g.nodes, n ∈ waiting ↔ g.Stuck n

theorem Sound.sort_spec (hg : g.Sound) :
    (∃ order, g.sort = .ok order ∧ g.Least order ∧ g.Acyclic) ∨
      ∃ waiting, g.sort = .error (.circular waiting) ∧ g.Waits waiting ∧ ¬g.Acyclic := by
  obtain ⟨s, hs, h, hempty, hleast⟩ := hg.tracks_begun.advance hg (Nat.le_add_right _ _)
  by_cases hlength : s.done.length = g.nodes.length
  · have hsort : g.sort = .ok s.done := by
      simp only [sort, hs, bind, Except.bind, if_pos hlength, pure, Except.pure]
    have hcomplete : ∀ n, g.isRegistered n = true → s.done.contains n = true := fun n hn =>
      h.arranged.complete_of_length hg (Nat.le_of_eq hlength.symm) hn
    refine .inl ⟨s.done, hsort, ⟨⟨h.arranged, hcomplete⟩, fun other hother => ?_⟩, ?_⟩
    · refine hleast other hother ?_
      cases hplaces : g.places other with
      | nil => exact .inl rfl
      | cons r rs => exact .inr .nil
    · intro n hcycle
      have hstuck : g.Stuck n := ⟨n, .refl, hcycle⟩
      obtain ⟨d, hneeds, _⟩ := hstuck.exists_needs
      exact h.arranged.not_stuck (hcomplete n (hg.registered n d hneeds).1) hstuck
  · have hsort : g.sort = .error (.circular s.waiting) := by
      simp only [sort, hs, bind, Except.bind, if_neg hlength]
      rfl
    refine .inr ⟨s.waiting, hsort, ⟨?_, fun n hn => h.mem_waiting_iff hg hempty hn⟩, ?_⟩
    · rw [Sorting.waiting, h.counts.degrees, List.filter_map, List.map_map]
      simp [Function.comp_def]
    · intro hacyclic
      refine hlength (h.arranged.length_of_complete hg fun n hn => ?_)
      rw [h.contains_iff hg hempty hn]
      rintro ⟨m, _, hcycle⟩
      exact hacyclic m hcycle

theorem sort_ok {α : Type} [BEq α] [LawfulBEq α] {g : Graph α} (hg : g.Sound) {order : List α}
    (h : g.sort = .ok order) :
    order.Nodup ∧ (∀ n, n ∈ order ↔ n ∈ g.nodes) ∧
      ∀ n, ∀ d ∈ g.dependenciesOf n, order.idxOf d < order.idxOf n := by
  rcases hg.sort_spec with ⟨order', hsort, hleast, _⟩ | ⟨_, hsort, _⟩
  · cases hsort.symm.trans h
    have hmem : ∀ n, n ∈ order ↔ n ∈ g.nodes := by
      intro n
      rw [mem_nodes_iff]
      exact ⟨hleast.registered n, fun hn => by simpa using hleast.complete n hn⟩
    have hnodup : order.Nodup := hleast.distinct.imp fun hne => by simpa using hne
    refine ⟨hnodup, hmem, fun n d hd => ?_⟩
    have hneeds := needs_iff_mem.mpr hd
    have hn := (hmem n).mpr ((mem_nodes_iff g n).mpr (hg.registered n d hneeds).1)
    obtain ⟨before, after, rfl⟩ := List.append_of_mem hn
    have hbefore : d ∈ before := by simpa using hleast.behind before n after rfl d hneeds
    have hnew : n ∉ before := fun hmem =>
      (List.nodup_append.mp hnodup).2.2 n hmem n (by simp) rfl
    rw [List.idxOf_append_of_mem hbefore, List.idxOf_append_of_notMem hnew]
    exact Nat.lt_add_right _ (List.idxOf_lt_length_of_mem hbefore)
  · cases hsort.symm.trans h

/-! ### What the order depends on -/

/-- Whether two sorts have the same outcome, up to the shapes of the nodes. -/
def SameOutcome : Except (SortError α) (List α) → Except (SortError α) (List α) → Prop
  | .ok order, .ok order' => List.Forall₂ (fun n n' => (n == n') = true) order order'
  | .error (.circular waiting), .error (.circular waiting') =>
    List.Forall₂ (fun n n' => (n == n') = true) waiting waiting'
  | _, _ => False

theorem Sound.ascending_places (hg : g.Sound) {ns : List α} (hns : ns.Sublist g.nodes) :
    (g.places ns).Pairwise (· < ·) := by
  rw [places, List.pairwise_filterMap]
  refine List.Pairwise.sublist hns (List.pairwise_iff_getElem.mpr ?_)
  intro i j hi hj hij r hr r' hr'
  rw [hg.rank?_getElem] at hr hr'
  cases hr
  cases hr'
  exact hij

theorem Waits.registered {waiting : List α} (h : g.Waits waiting) :
    ∀ n ∈ waiting, g.isRegistered n = true := by
  intro n hn
  rw [isRegistered_eq_contains]
  exact List.contains_iff_exists_mem_beq.mpr ⟨n, h.sublist.subset hn, BEq.rfl⟩

theorem Waits.mem_places_iff (hg : g.Sound) {waiting : List α} (h : g.Waits waiting) (r : Nat) :
    r ∈ g.places waiting ↔ ∃ n, g.rank? n = some r ∧ g.Stuck n := by
  rw [places, List.mem_filterMap]
  constructor
  · rintro ⟨n, hn, hr⟩
    exact ⟨n, hr, (h.stuck n (h.sublist.subset hn)).mp hn⟩
  · rintro ⟨n, hr, hstuck⟩
    have hlt := hg.rank?_lt hr
    have hbeq := hg.beq_of_rank? hr (hg.rank?_getElem hlt)
    refine ⟨g.nodes[r], ?_, hg.rank?_getElem hlt⟩
    exact (h.stuck _ (List.getElem_mem hlt)).mpr (stuck_congr hbeq hstuck)

section Comparing

variable {g' : Graph α} (hg : g.Sound) (hg' : g'.Sound) (hranks : ∀ n, g'.rank? n = g.rank? n)
  (hedges : ∀ n d, g'.Needs n d ↔ g.Needs n d)
include hg hg' hranks

theorem isRegistered_of_ranks (n : α) : g'.isRegistered n = g.isRegistered n := by
  rw [← hg.isSome_rank?, ← hg'.isSome_rank?, hranks]

omit [EquivBEq α] hg hg' in
theorem places_of_ranks (ns : List α) : g'.places ns = g.places ns := by
  rw [places, places, funext hranks]

include hedges

theorem Lists.of_edges {order : List α} (h : g.Lists order) : g'.Lists order where
  distinct := h.distinct
  registered n hn := (isRegistered_of_ranks hg hg' hranks n).trans (h.registered n hn)
  behind before n after hsplit d hd := h.behind before n after hsplit d ((hedges n d).mp hd)
  complete n hn := h.complete n ((isRegistered_of_ranks hg hg' hranks n).symm.trans hn)

omit [EquivBEq α] hg hg' hranks in
theorem needs_eq_of_edges : g'.Needs = g.Needs :=
  funext fun n => funext fun d => propext (hedges n d)

theorem sameOutcome_of_edges : SameOutcome g'.sort g.sort := by
  have hneeds := needs_eq_of_edges hedges
  rcases hg.sort_spec with ⟨order, hsort, hleast, hacyclic⟩ | ⟨waiting, hsort, hwaits, hcyclic⟩
  · rcases hg'.sort_spec with ⟨order', hsort', hleast', _⟩ | ⟨_, _, _, hcyclic'⟩
    · rw [hsort, hsort']
      -- each of the two orders is an arrangement of the other graph, so neither is less
      have hle := hleast.least order'
        (hleast'.toLists.of_edges hg' hg (fun n => (hranks n).symm) fun n d => (hedges n d).symm)
      have hle' := hleast'.least order (hleast.toLists.of_edges hg hg' hranks hedges)
      rw [places_of_ranks hranks, places_of_ranks hranks] at hle'
      refine hg.beq_of_places (fun n hn => ?_) hleast.registered (hle'.antisymm hle)
      rw [← isRegistered_of_ranks hg hg' hranks]
      exact hleast'.registered n hn
    · rw [Acyclic, hneeds] at hcyclic'
      exact absurd hacyclic hcyclic'
  · rcases hg'.sort_spec with ⟨_, _, _, hacyclic'⟩ | ⟨waiting', hsort', hwaits', _⟩
    · rw [Acyclic, hneeds] at hacyclic'
      exact absurd hacyclic' hcyclic
    · rw [hsort, hsort']
      refine hg.beq_of_places (fun n hn => ?_) hwaits.registered ?_
      · rw [← isRegistered_of_ranks hg hg' hranks]
        exact hwaits'.registered n hn
      · rw [← places_of_ranks hranks]
        refine (hg'.ascending_places hwaits'.sublist).eq_of_mem_iff ?_ fun r => ?_
        · exact hg.ascending_places hwaits.sublist
        · rw [hwaits'.mem_places_iff hg', hwaits.mem_places_iff hg]
          simp only [hranks, Stuck, hneeds]

end Comparing

/-- Of all graphs that calls can build, whichever of the calls fail: sorting succeeds just when no
node depends on itself through others, and then gives the least by rank of all arrangements of
all nodes; the only other outcome are the nodes that wait for a cycle; and the outcome depends on
the ranks and the edges alone. -/
theorem sort_ofEdits [Node α] (edits : List (Edit α)) :
    ((∃ order, (ofEdits edits).sort = .ok order) ↔ (ofEdits edits).Acyclic) ∧
      (∀ order, (ofEdits edits).sort = .ok order → (ofEdits edits).Least order) ∧
      (∀ e, (ofEdits edits).sort = .error e →
        ∃ waiting, e = .circular waiting ∧ (ofEdits edits).Waits waiting) ∧
      ∀ others : List (Edit α), (∀ n, (ofEdits others).rank? n = (ofEdits edits).rank? n) →
        (∀ n d, (ofEdits others).Needs n d ↔ (ofEdits edits).Needs n d) →
        SameOutcome (ofEdits others).sort (ofEdits edits).sort := by
  have hg := sound_ofEdits edits
  refine ⟨?_, ?_, ?_, fun others => sameOutcome_of_edges hg (sound_ofEdits others)⟩
  all_goals
    rcases hg.sort_spec with ⟨order, hsort, hleast, hacyclic⟩ | ⟨waiting, hsort, hwaits, hcyclic⟩
  · exact ⟨fun _ => hacyclic, fun _ => ⟨order, hsort⟩⟩
  · refine ⟨?_, fun hacyclic => absurd hacyclic hcyclic⟩
    rintro ⟨order, hok⟩
    rw [hsort] at hok
    cases hok
  · intro order' hok
    cases hsort.symm.trans hok
    exact hleast
  · intro order' hok
    cases hsort.symm.trans hok
  · intro e herror
    cases hsort.symm.trans herror
  · intro e herror
    cases hsort.symm.trans herror
    exact ⟨waiting, rfl, hwaits⟩

/-- Edges that come twice or in bulk, a node of its own, and a call that fails. -/
theorem least_of_edits :
    (ofEdits [.edges "b" ["c"], .edges "a" ["b", "c", "b"], .node "d", .edges "e" ["a", "e"]] :
      Graph String).Least ["d", "e", "a", "b", "c"] :=
  (sort_ofEdits _).2.1 _ rfl

example : (ofEdits [.edges "x" ["a"], .edges "a" ["b"], .edges "b" ["a", "y"]] :
    Graph String).sort = .error (.circular ["a", "b", "y"]) := rfl

end Graph

end FieldPipeline
