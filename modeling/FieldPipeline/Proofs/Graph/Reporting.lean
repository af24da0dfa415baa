import Mathlib.Data.List.TakeWhile
import FieldPipeline.Proofs.Graph.Sorting

/-!
What is told of a graph by the calls that built it, of which each registers and links its members
up to the first that it fails at: what the tables of the graph hold, and what is reported when it
cannot be sorted.
-/

namespace FieldPipeline.Graph

variable {α : Type} [BEq α] [Node α]

/-! ### What calls register and link -/

/-- The dependents that a call links to a dependency before it fails at one, if it does. -/
def linkable (dependency : α) (dependents : List α) : List α :=
  dependents.takeWhile fun dependent => !(dependent == dependency) && Node.usable dependent

@[simp] theorem linkable_nil (dependency : α) : linkable dependency [] = [] := rfl

@[simp] theorem linkable_cons (dependency dependent : α) (dependents : List α) :
    linkable dependency (dependent :: dependents) =
      if !(dependent == dependency) && Node.usable dependent
      then dependent :: linkable dependency dependents else [] :=
  List.takeWhile_cons

namespace Edit

def named : Edit α → List α
  | .node n => if Node.usable n then [n] else []
  | .edges dependency dependents =>
    if Node.usable dependency then dependency :: linkable dependency dependents else []

def Links (edit : Edit α) (dependency dependent : α) : Prop :=
  match edit with
  | .node _ => False
  | .edges d ns =>
    Node.usable d = true ∧ (d == dependency) = true ∧ (linkable d ns).contains dependent = true

end Edit

def registered (edits : List (Edit α)) : List α :=
  (edits.flatMap Edit.named).eraseDups

def Leads (edits : List (Edit α)) (dependency dependent : α) : Prop :=
  ∃ edit ∈ edits, edit.Links dependency dependent

omit [Node α] in
theorem eraseDups_append_singleton (ns : List α) (node : α) :
    (ns ++ [node]).eraseDups =
      if ns.eraseDups.contains node then ns.eraseDups else ns.eraseDups ++ [node] := by
  have hloop : ∀ seen : List α,
      List.eraseDupsBy.loop (· == ·) (ns ++ [node]) seen =
        if (List.eraseDupsBy.loop (· == ·) ns seen).contains node
        then List.eraseDupsBy.loop (· == ·) ns seen
        else List.eraseDupsBy.loop (· == ·) ns seen ++ [node] := by
    induction ns with
    | nil =>
        intro seen
        cases hseen : seen.any (node == ·) <;>
          simp [List.eraseDupsBy.loop, List.contains_eq_any_beq, hseen]
    | cons n ns ih =>
        intro seen
        rw [List.cons_append, List.eraseDupsBy.loop, List.eraseDupsBy.loop]
        cases seen.any (n == ·) <;> exact ih _
  exact hloop []

omit [Node α] in
@[simp] theorem needs_register (g : Graph α) (node n d : α) :
    (g.register node).Needs n d ↔ g.Needs n d := by
  simp [Needs]

theorem addEdgesTo_cons (g : Graph α) (dependency dependent : α) (dependents : List α) :
    (g.addEdgesTo dependency (dependent :: dependents)).1 =
      if !(dependent == dependency) && Node.usable dependent
      then (((g.register dependent).link dependency dependent).addEdgesTo
        dependency dependents).1 else g := by
  cases hself : dependent == dependency <;> cases husable : Node.usable dependent <;>
    simp [addEdgesTo, addEdge, hself, husable]

variable [EquivBEq α]

omit [Node α] in
theorem nodes_register {g : Graph α} {ns : List α} (h : g.nodes = ns.eraseDups) (node : α) :
    (g.register node).nodes = (ns ++ [node]).eraseDups := by
  rw [eraseDups_append_singleton, ← h, ← isRegistered_eq_contains, register]
  split <;> simp_all [nodes]

theorem nodes_addEdgesTo {g : Graph α} {ns : List α} (h : g.nodes = ns.eraseDups)
    (dependency : α) (dependents : List α) :
    (g.addEdgesTo dependency dependents).1.nodes =
      (ns ++ linkable dependency dependents).eraseDups := by
  induction dependents generalizing g ns with
  | nil => simpa [addEdgesTo] using h
  | cons dependent dependents ih =>
      rw [addEdgesTo_cons, linkable_cons]
      split
      · have hnodes : ((g.register dependent).link dependency dependent).nodes =
            (ns ++ [dependent]).eraseDups := by
          rw [nodes_link, nodes_register h]
        simpa using ih hnodes
      · simpa using h

theorem nodes_after {g : Graph α} {ns : List α} (h : g.nodes = ns.eraseDups) (edit : Edit α) :
    (g.after edit).nodes = (ns ++ edit.named).eraseDups := by
  cases edit with
  | node node =>
      cases husable : Node.usable node with
      | false => simpa [after, addNode, Edit.named, husable] using h
      | true => simpa [after, addNode, Edit.named, husable] using nodes_register h node
  | edges dependency dependents =>
      cases husable : Node.usable dependency with
      | false => simpa [after, addEdges, addNode, Edit.named, husable] using h
      | true =>
          have hrest := nodes_addEdgesTo (nodes_register h dependency) dependency dependents
          simpa [after, addEdges, addNode, Edit.named, husable] using hrest

theorem nodes_ofEdits (edits : List (Edit α)) : (ofEdits edits).nodes = registered edits := by
  induction edits using List.reverseRecOn with
  | nil => rfl
  | append_singleton edits edit ih =>
      rw [ofEdits, List.foldl_append, registered, List.flatMap_append]
      simpa [ofEdits] using nodes_after ih edit

theorem needs_addEdgesTo {g : Graph α} (dependency : α) (dependents : List α) (n d : α) :
    (g.addEdgesTo dependency dependents).1.Needs n d ↔
      ((dependency == d) = true ∧ (linkable dependency dependents).contains n = true) ∨
        g.Needs n d := by
  induction dependents generalizing g with
  | nil => simp [addEdgesTo]
  | cons dependent dependents ih =>
      rw [addEdgesTo_cons, linkable_cons]
      split
      · rw [ih, needs_link, needs_register, BEq.comm (a := d), BEq.comm (a := dependent),
          List.contains_cons, Bool.or_eq_true, and_or_left, or_assoc, or_left_comm,
          and_comm (a := (n == dependent) = true)]
      · simp

theorem needs_after {g : Graph α} (edit : Edit α) (n d : α) :
    (g.after edit).Needs n d ↔ edit.Links d n ∨ g.Needs n d := by
  cases edit with
  | node node =>
      cases husable : Node.usable node <;> simp [after, addNode, Edit.Links, husable]
  | edges dependency dependents =>
      cases husable : Node.usable dependency with
      | false => simp [after, addEdges, addNode, Edit.Links, husable]
      | true =>
          have hrest := needs_addEdgesTo (g := g.register dependency) dependency dependents n d
          simpa [after, addEdges, addNode, Edit.Links, husable] using hrest

theorem needs_ofEdits_iff (edits : List (Edit α)) (n d : α) :
    (ofEdits edits).Needs n d ↔ Leads edits d n := by
  induction edits using List.reverseRecOn with
  | nil => simp [ofEdits, Leads, empty, Needs, dependenciesOf, listed]
  | append_singleton edits edit ih =>
      have hafter := needs_after (g := ofEdits edits) edit n d
      rw [ih] at hafter
      rw [ofEdits] at hafter ⊢
      simpa [Leads, or_and_right, exists_or, or_comm] using hafter

/-! ### The tables of a graph -/

omit [Node α] in
theorem count_of_distinct {ns : List α} (h : Distinct ns) (node : α) :
    ns.count node = if ns.contains node then 1 else 0 := by
  induction ns with
  | nil => rfl
  | cons n ns ih =>
      obtain ⟨hnew, hrest⟩ := distinct_cons h
      rw [List.count_cons, ih hrest, List.contains_cons, BEq.comm (a := node)]
      cases hnode : n == node with
      | false => simp
      | true =>
          rw [List.contains_congr hnode] at hnew
          simp [hnew]

theorem not_links_self (edit : Edit α) (node : α) : ¬edit.Links node node := by
  cases edit with
  | node n => exact id
  | edges dependency dependents =>
      rintro ⟨_, hnode, hcontains⟩
      obtain ⟨n, hn, hbeq⟩ := List.contains_iff_exists_mem_beq.mp hcontains
      have hlinkable := List.mem_takeWhile_imp hn
      have hself : (n == dependency) = true := BEq.trans (BEq.symm hbeq) (BEq.symm hnode)
      simp [hself] at hlinkable

theorem not_needs_self (edits : List (Edit α)) (node : α) :
    ¬(ofEdits edits).Needs node node := by
  rw [needs_ofEdits_iff]
  rintro ⟨edit, _, hlinks⟩
  exact not_links_self edit node hlinks

/-- Whichever calls built a graph, and whichever of them failed half-way: its nodes are those that
the calls registered, and their ranks are the places in the order of registration; both ends of an
edge are registered, and no node depends on itself; and a node stands once among the dependents of
each of its dependencies and not at all among those of another node. -/
theorem tables_ofEdits (edits : List (Edit α)) :
    (ofEdits edits).ranks = (registered edits).zipIdx ∧ Distinct (registered edits) ∧
      (∀ n d, (ofEdits edits).Needs n d →
        (registered edits).contains n = true ∧ (registered edits).contains d = true) ∧
      (∀ n, ¬(ofEdits edits).Needs n n) ∧
      ∀ n d, ((ofEdits edits).dependentsOf d).count n =
        if ((ofEdits edits).dependenciesOf n).contains d then 1 else 0 := by
  have hg := sound_ofEdits edits
  rw [← nodes_ofEdits]
  refine ⟨hg.ranks, hg.distinct, fun n d hneeds => ?_, not_needs_self edits, fun n d => ?_⟩
  · rw [← isRegistered_eq_contains, ← isRegistered_eq_contains]
    exact hg.registered n d hneeds
  · rw [count_of_distinct (hg.dependents d), hg.mirrored]

def tangle : List (Edit String) :=
  [.edges "x" ["a"], .edges "a" ["b"], .edges "b" ["a", "y"], .edges "x" ["z", "x", "y"]]

theorem tables_tangle : registered tangle = ["x", "a", "b", "y", "z"] ∧
    (ofEdits tangle).ranks = [("x", 0), ("a", 1), ("b", 2), ("y", 3), ("z", 4)] ∧
    ¬(ofEdits tangle).Needs "x" "x" ∧ ((ofEdits tangle).dependentsOf "x").count "a" = 1 ∧
    ((ofEdits tangle).dependentsOf "x").count "y" = 0 := by
  obtain ⟨hranks, -, -, hself, hcount⟩ := tables_ofEdits tangle
  exact ⟨by decide, hranks.trans (by decide), hself "x", (hcount "a" "x").trans (by decide),
    (hcount "y" "x").trans (by decide)⟩

/-! ### Cycles among the edges -/

/-- Whether a node lies on a directed cycle or can be reached from one. -/
def Follows (edits : List (Edit α)) (node : α) : Prop :=
  ∃ m, Relation.TransGen (Leads edits) m m ∧ Relation.ReflTransGen (Leads edits) m node

theorem stuck_ofEdits_iff (edits : List (Edit α)) (node : α) :
    (ofEdits edits).Stuck node ↔ Follows edits node := by
  have hswap : (ofEdits edits).Needs = Function.swap (Leads edits) :=
    funext fun n => funext fun d => propext (needs_ofEdits_iff edits n d)
  simp only [Stuck, Follows, hswap, Relation.transGen_swap, Relation.reflTransGen_swap]
  exact exists_congr fun m => and_comm

/-- Whichever calls built a graph, and whichever of them failed: if their edges contain a directed
cycle, sorting reports just the registered nodes that lie on one or can be reached from one, each
of them once and in the order of their registration. -/
theorem sort_of_cycle (edits : List (Edit α))
    (hcycle : ∃ n, Relation.TransGen (Leads edits) n n) :
    ∃ waiting, (ofEdits edits).sort = .error (.circular waiting) ∧
      Distinct waiting ∧ waiting.Sublist (registered edits) ∧
      ∀ n ∈ registered edits, n ∈ waiting ↔ Follows edits n := by
  have hg := sound_ofEdits edits
  rcases hg.sort_spec with ⟨_, _, _, hacyclic⟩ | ⟨waiting, hsort, hwaits, _⟩
  · obtain ⟨n, hn⟩ := hcycle
    obtain ⟨m, _, hm⟩ := (stuck_ofEdits_iff edits n).mpr ⟨n, hn, .refl⟩
    exact absurd hm (hacyclic m)
  · refine ⟨waiting, hsort, hg.distinct.sublist hwaits.sublist, ?_, fun n hn => ?_⟩
    · rw [← nodes_ofEdits]
      exact hwaits.sublist
    · rw [← nodes_ofEdits] at hn
      rw [hwaits.stuck n hn, stuck_ofEdits_iff]

theorem follows_tangle : Relation.TransGen (Leads tangle) "a" "a" ∧
    (ofEdits tangle).sort = .error (.circular ["a", "b", "y"]) ∧
    ∀ n ∈ registered tangle, n ∈ ["a", "b", "y"] ↔ Follows tangle n := by
  have hthere : Leads tangle "a" "b" :=
    ⟨.edges "a" ["b"], by decide, by decide, by decide, by decide⟩
  have hback : Leads tangle "b" "a" :=
    ⟨.edges "b" ["a", "y"], by decide, by decide, by decide, by decide⟩
  have hcycle : Relation.TransGen (Leads tangle) "a" "a" := .tail (.single hthere) hback
  have hwaiting : (ofEdits tangle).sort = .error (.circular ["a", "b", "y"]) := rfl
  obtain ⟨waiting, hsort, -, -, hfollows⟩ := sort_of_cycle tangle ⟨"a", hcycle⟩
  cases hwaiting.symm.trans hsort
  exact ⟨hcycle, hwaiting, hfollows⟩

end FieldPipeline.Graph
