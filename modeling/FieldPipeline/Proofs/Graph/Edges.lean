import Mathlib.Data.List.Basic
import FieldPipeline.Graph.Order

/-!
The nodes and edges of a graph after more of them have been added.  Nodes are told apart by `==`
alone, so a graph may hold one node in several shapes.
-/

namespace FieldPipeline.Graph

variable {α : Type} [BEq α]

def Needs (g : Graph α) (node dependency : α) : Prop :=
  (g.dependenciesOf node).contains dependency = true

def Distinct (ns : List α) : Prop :=
  ns.Pairwise fun n n' => (n == n') = false

section Equivalence

variable [EquivBEq α]

theorem distinct_append_singleton {ns : List α} (h : Distinct ns) {node : α}
    (hnew : ns.contains node = false) : Distinct (ns ++ [node]) := by
  refine List.pairwise_append.mpr ⟨h, by simp, fun n hn n' hn' => ?_⟩
  rw [List.mem_singleton] at hn'
  subst hn'
  by_contra hbeq
  rw [Bool.not_eq_false] at hbeq
  have hcontains := List.contains_iff_exists_mem_beq.mpr ⟨n, hn, BEq.symm hbeq⟩
  rw [hcontains] at hnew
  cases hnew

omit [EquivBEq α] in
theorem distinct_cons {node : α} {ns : List α} (h : Distinct (node :: ns)) :
    ns.contains node = false ∧ Distinct ns := by
  rw [Distinct, List.pairwise_cons] at h
  refine ⟨?_, h.2⟩
  rw [← Bool.not_eq_true, List.contains_iff_exists_mem_beq]
  rintro ⟨n, hn, hbeq⟩
  rw [h.1 n hn] at hbeq
  cases hbeq

theorem isRegistered_eq_contains (g : Graph α) (node : α) :
    g.isRegistered node = g.nodes.contains node :=
  List.any_beq'

theorem isRegistered_congr (g : Graph α) {n n' : α} (h : (n == n') = true) :
    g.isRegistered n = g.isRegistered n' := by
  simp only [isRegistered_eq_contains, List.contains_congr h]

theorem listed_congr {n n' : α} (h : (n == n') = true) (table : List (α × List α)) :
    listed n table = listed n' table := by
  induction table with
  | nil => rfl
  | cons row table ih => simp only [listed, BEq.congr_right h, ih]

theorem dependenciesOf_congr (g : Graph α) {n n' : α} (h : (n == n') = true) :
    g.dependenciesOf n = g.dependenciesOf n' :=
  listed_congr h _

theorem needs_congr {g : Graph α} {n n' d d' : α} (hn : (n == n') = true)
    (hd : (d == d') = true) : g.Needs n d ↔ g.Needs n' d' := by
  rw [Needs, Needs, g.dependenciesOf_congr hn, List.contains_congr hd]

theorem listed_enlist (key other added : α) (table : List (α × List α)) :
    listed other (enlist key added table) =
      if key == other then listed other table ++ [added] else listed other table := by
  induction table with
  | nil => cases h : key == other <;> simp [enlist, listed, h]
  | cons row table ih =>
      obtain ⟨first, ns⟩ := row
      cases hkey : first == key with
      | true =>
          have hother : (first == other) = (key == other) := BEq.congr_left hkey
          cases h : key == other <;> simp [enlist, listed, hkey, hother, h]
      | false =>
          cases hother : first == other with
          | true =>
              have hne : (key == other) = false := by
                rw [← BEq.congr_right hother, BEq.comm]
                exact hkey
              simp [enlist, listed, hkey, hother, hne]
          | false => simp [enlist, listed, hkey, hother, ih]

omit [EquivBEq α] in
@[simp] theorem dependenciesOf_register (g : Graph α) (node other : α) :
    (g.register node).dependenciesOf other = g.dependenciesOf other := by
  unfold register
  split <;> rfl

omit [EquivBEq α] in
@[simp] theorem dependentsOf_register (g : Graph α) (node other : α) :
    (g.register node).dependentsOf other = g.dependentsOf other := by
  unfold register
  split <;> rfl

theorem isRegistered_register (g : Graph α) (node other : α) :
    (g.register node).isRegistered other = (other == node || g.isRegistered other) := by
  unfold register
  split
  · rename_i h
    cases hother : other == node with
    | true => rw [g.isRegistered_congr hother, h]; rfl
    | false => rfl
  · simp [isRegistered_eq_contains, nodes, List.contains_append, Bool.or_comm]

omit [EquivBEq α] in
@[simp] theorem ranks_link (g : Graph α) (dependency dependent : α) :
    (g.link dependency dependent).ranks = g.ranks := by
  unfold link
  split <;> rfl

omit [EquivBEq α] in
@[simp] theorem nodes_link (g : Graph α) (dependency dependent : α) :
    (g.link dependency dependent).nodes = g.nodes := by
  simp [nodes]

omit [EquivBEq α] in
@[simp] theorem isRegistered_link (g : Graph α) (dependency dependent node : α) :
    (g.link dependency dependent).isRegistered node = g.isRegistered node := by
  simp [isRegistered]

theorem link_of_new {g : Graph α} {dependency dependent : α}
    (hnew : (g.dependenciesOf dependent).contains dependency = false) (node : α) :
    (g.link dependency dependent).dependenciesOf node =
        (if dependent == node then g.dependenciesOf node ++ [dependency]
          else g.dependenciesOf node) ∧
      (g.link dependency dependent).dependentsOf node =
        (if dependency == node then g.dependentsOf node ++ [dependent]
          else g.dependentsOf node) := by
  unfold link
  rw [List.any_beq', hnew]
  exact ⟨listed_enlist .., listed_enlist ..⟩

theorem link_of_known {g : Graph α} {dependency dependent : α}
    (hknown : (g.dependenciesOf dependent).contains dependency = true) :
    g.link dependency dependent = g := by
  unfold link
  rw [List.any_beq', hknown]
  rfl

theorem needs_link (g : Graph α) (dependency dependent node d : α) :
    (g.link dependency dependent).Needs node d ↔
      ((dependent == node) = true ∧ (d == dependency) = true) ∨ g.Needs node d := by
  cases h : (g.dependenciesOf dependent).contains dependency with
  | true =>
      rw [link_of_known h]
      refine ⟨Or.inr, ?_⟩
      rintro (⟨hnode, hd⟩ | hneeds)
      · exact (needs_congr hnode (BEq.symm hd)).mp h
      · exact hneeds
  | false =>
      rw [Needs, (link_of_new h node).1]
      cases hnode : dependent == node <;> simp [Needs, or_comm]

/-! ### What the tables of a graph keep to -/

/-- A graph whose ranks are the places of its nodes, and whose two tables hold the same edges,
each once and between registered nodes. -/
structure Sound (g : Graph α) : Prop where
  ranks : g.ranks = g.nodes.zipIdx
  distinct : Distinct g.nodes
  registered : ∀ n d, g.Needs n d → g.isRegistered n = true ∧ g.isRegistered d = true
  mirrored : ∀ n d, (g.dependentsOf d).contains n = (g.dependenciesOf n).contains d
  dependencies : ∀ n, Distinct (g.dependenciesOf n)
  dependents : ∀ n, Distinct (g.dependentsOf n)

namespace Sound

variable {g : Graph α}

omit [EquivBEq α] in
theorem empty : (Graph.empty : Graph α).Sound := by
  constructor <;> simp [Graph.empty, nodes, Needs, Distinct, dependenciesOf, dependentsOf, listed]

theorem register (h : g.Sound) (node : α) : (g.register node).Sound := by
  have hneeds : ∀ n d, (g.register node).Needs n d ↔ g.Needs n d := by simp [Needs]
  refine ⟨?_, ?_, fun n d hnd => ?_, by simpa using h.mirrored, by simpa using h.dependencies,
    by simpa using h.dependents⟩
  · have hlength : g.ranks.length = g.nodes.length := by simp [nodes]
    unfold Graph.register
    split
    · exact h.ranks
    · have hnodes : (g.ranks ++ [(node, g.ranks.length)]).map Prod.fst = g.nodes ++ [node] := by
        simp [nodes]
      simp only [nodes] at hnodes ⊢
      rw [hnodes, List.zipIdx_append, h.ranks]
      simp [nodes]
  · cases hnode : g.isRegistered node with
    | true => simpa [Graph.register, hnode] using h.distinct
    | false =>
        rw [isRegistered_eq_contains] at hnode
        have hdistinct := distinct_append_singleton h.distinct hnode
        rw [← isRegistered_eq_contains] at hnode
        simpa [Graph.register, hnode, nodes] using hdistinct
  · obtain ⟨hn, hd⟩ := h.registered n d ((hneeds n d).mp hnd)
    simp [isRegistered_register, hn, hd]

theorem link (h : g.Sound) {dependency dependent : α}
    (hdependency : g.isRegistered dependency = true)
    (hdependent : g.isRegistered dependent = true) : (g.link dependency dependent).Sound := by
  cases hknown : (g.dependenciesOf dependent).contains dependency with
  | true => rwa [link_of_known hknown]
  | false =>
      have hmirrored : (g.dependentsOf dependency).contains dependent = false := by
        rw [h.mirrored, hknown]
      refine ⟨by simpa using h.ranks, by simpa using h.distinct, fun n d hnd => ?_, fun n d => ?_,
        fun n => ?_, fun n => ?_⟩
      · rw [isRegistered_link, isRegistered_link]
        rcases (needs_link ..).mp hnd with ⟨hn, hd⟩ | hnd
        · rw [← g.isRegistered_congr hn, g.isRegistered_congr hd]
          exact ⟨hdependent, hdependency⟩
        · exact h.registered n d hnd
      · rw [(link_of_new hknown n).1, (link_of_new hknown d).2]
        have hd : (dependency == d) = (d == dependency) := BEq.comm
        have hn : (dependent == n) = (n == dependent) := BEq.comm
        cases hd' : d == dependency <;> cases hn' : n == dependent <;>
          simp [hd, hn, hd', hn', h.mirrored]
      · rw [(link_of_new hknown n).1]
        split
        · rename_i hn
          refine distinct_append_singleton (h.dependencies n) ?_
          rw [← g.dependenciesOf_congr hn, hknown]
        · exact h.dependencies n
      · rw [(link_of_new hknown n).2]
        split
        · rename_i hn
          refine distinct_append_singleton (h.dependents n) ?_
          rw [h.mirrored, ← List.contains_congr hn, ← h.mirrored, hmirrored]
        · exact h.dependents n

end Sound

end Equivalence

/-! ### Adding nodes and edges -/

section Building

variable [Node α]

/-- A call that adds to a graph. -/
inductive Edit (α : Type) where
  | node (node : α)
  | edges (dependency : α) (dependents : List α)
  deriving DecidableEq, Repr

/-- The graph after a call.  A call that fails may have added something before. -/
def after (g : Graph α) : Edit α → Graph α
  | .node node =>
    match g.addNode node with
    | .ok g => g
    | .error _ => g
  | .edges dependency dependents => (g.addEdges dependency dependents).1

def ofEdits (edits : List (Edit α)) : Graph α :=
  edits.foldl after empty

variable [EquivBEq α] {g : Graph α}

theorem Sound.addEdgesTo (h : g.Sound) {dependency : α}
    (hdependency : g.isRegistered dependency = true) (dependents : List α) :
    (g.addEdgesTo dependency dependents).1.Sound := by
  induction dependents generalizing g with
  | nil => exact h
  | cons dependent dependents ih =>
      cases hself : dependent == dependency with
      | true => simpa [Graph.addEdgesTo, addEdge, hself] using h
      | false =>
          cases husable : Node.usable dependent with
          | false => simpa [Graph.addEdgesTo, addEdge, hself, husable] using h
          | true =>
              have hregistered : (g.register dependent).isRegistered dependency = true := by
                rw [isRegistered_register, hdependency, Bool.or_true]
              have hlinked := (h.register dependent).link hregistered
                (by rw [isRegistered_register, BEq.rfl, Bool.true_or])
              simpa [Graph.addEdgesTo, addEdge, hself, husable] using
                ih hlinked (by rw [isRegistered_link, hregistered])

theorem Sound.addEdges (h : g.Sound) (dependency : α) (dependents : List α) :
    (g.addEdges dependency dependents).1.Sound := by
  unfold Graph.addEdges addNode
  cases husable : Node.usable dependency with
  | false => simpa using h
  | true =>
      refine (h.register dependency).addEdgesTo ?_ dependents
      rw [isRegistered_register, BEq.rfl, Bool.true_or]

theorem Sound.after (h : g.Sound) (edit : Edit α) : (g.after edit).Sound := by
  cases edit with
  | node node =>
      cases husable : Node.usable node with
      | false => simpa [Graph.after, addNode, husable] using h
      | true => simpa [Graph.after, addNode, husable] using h.register node
  | edges dependency dependents => exact h.addEdges dependency dependents

theorem sound_ofEdits (edits : List (Edit α)) : (ofEdits edits).Sound :=
  List.foldlRecOn edits Graph.after Sound.empty fun _ h edit _ => h.after edit

omit [EquivBEq α] in
theorem addEdges_singleton {dependency dependent : α}
    (hdependency : Node.usable dependency = true) (hdependent : Node.usable dependent = true)
    (hne : (dependent == dependency) = false) :
    (g.addEdges dependency [dependent]).1 =
      ((g.register dependency).register dependent).link dependency dependent := by
  simp [Graph.addEdges, addNode, Graph.addEdgesTo, addEdge, hdependency, hdependent, hne]

end Building

section Lawful

variable [LawfulBEq α] {g : Graph α}

theorem mem_nodes_iff (g : Graph α) (node : α) : node ∈ g.nodes ↔ g.isRegistered node = true := by
  simp [isRegistered_eq_contains]

theorem needs_iff_mem {node d : α} : g.Needs node d ↔ d ∈ g.dependenciesOf node := by
  simp [Needs]

variable [Node α] {dependency dependent : α}

theorem mem_nodes_addEdges (hdependency : Node.usable dependency = true)
    (hdependent : Node.usable dependent = true) (hne : dependent ≠ dependency) (node : α) :
    node ∈ (g.addEdges dependency [dependent]).1.nodes ↔
      node = dependency ∨ node = dependent ∨ node ∈ g.nodes := by
  rw [addEdges_singleton hdependency hdependent (by simpa using hne), nodes_link]
  simp only [mem_nodes_iff, isRegistered_register, Bool.or_eq_true, beq_iff_eq]
  exact or_left_comm

theorem mem_dependenciesOf_addEdges (hdependency : Node.usable dependency = true)
    (hdependent : Node.usable dependent = true) (hne : dependent ≠ dependency) (node d : α) :
    d ∈ (g.addEdges dependency [dependent]).1.dependenciesOf node ↔
      (d = dependency ∧ node = dependent) ∨ d ∈ g.dependenciesOf node := by
  rw [addEdges_singleton hdependency hdependent (by simpa using hne), ← needs_iff_mem, needs_link]
  simp only [needs_iff_mem, dependenciesOf_register, beq_iff_eq]
  rw [and_comm, eq_comm (a := dependent)]

end Lawful

end FieldPipeline.Graph
