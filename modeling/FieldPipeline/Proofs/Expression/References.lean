import Mathlib.Data.List.Sort
import Mathlib.Data.String.Basic
import FieldPipeline.Expression.Check
import FieldPipeline.Proofs.Expression.Reading

/-!
The references of an expression are all that it reads.  They are collected by a walk through the
tree, level by level; whatever name the evaluation looks up stands at some place of the tree, so
that it is among the references unless it is a word of the language.  The names are sorted, each
once, so that they are the same as soon as they have the same members.
-/

namespace FieldPipeline.Expression

theorem mem_insertName (name other : String) (names : List String) :
    other ∈ insertName name names ↔ other = name ∨ other ∈ names := by
  induction names with
  | nil => simp [insertName]
  | cons first names ih =>
      unfold insertName
      split
      · rename_i h
        simp [h]
      · split
        · simp
        · simp only [List.mem_cons, ih]
          exact or_left_comm

theorem pairwise_insertName (name : String) {names : List String}
    (h : names.Pairwise (· < ·)) : (insertName name names).Pairwise (· < ·) := by
  induction names with
  | nil => simp [insertName]
  | cons first names ih =>
      rw [List.pairwise_cons] at h
      unfold insertName
      split
      · exact List.pairwise_cons.mpr h
      · rename_i hne
        split
        · rename_i hlt
          refine List.pairwise_cons.mpr ⟨?_, List.pairwise_cons.mpr h⟩
          intro other hother
          rcases List.mem_cons.mp hother with rfl | hother
          · exact hlt
          · exact lt_trans hlt (h.1 other hother)
        · rename_i hle
          refine List.pairwise_cons.mpr ⟨?_, ih h.2⟩
          intro other hother
          rcases (mem_insertName name other names).mp hother with rfl | hother
          · exact lt_of_le_of_ne (not_lt.mp hle) (Ne.symm hne)
          · exact h.1 other hother

theorem mem_sortedNames (names : List String) (name : String) :
    name ∈ sortedNames names ↔ name ∈ names := by
  have hfold : ∀ acc, name ∈ names.foldl (fun acc n => insertName n acc) acc ↔
      name ∈ names ∨ name ∈ acc := by
    induction names with
    | nil => simp
    | cons first names ih =>
        intro acc
        rw [List.foldl_cons, ih, mem_insertName, List.mem_cons]
        exact or_left_comm.trans or_assoc.symm
  have hnames := hfold []
  rw [or_iff_left (List.not_mem_nil)] at hnames
  exact hnames

theorem pairwise_sortedNames (names : List String) : (sortedNames names).Pairwise (· < ·) := by
  have hfold : ∀ acc : List String, acc.Pairwise (· < ·) →
      (names.foldl (fun acc n => insertName n acc) acc).Pairwise (· < ·) := by
    induction names with
    | nil => exact fun _ h => h
    | cons first names ih => exact fun acc h => ih _ (pairwise_insertName first h)
  exact hfold [] List.Pairwise.nil

theorem sortedNames_eq_iff (names names' : List String) :
    sortedNames names = sortedNames names' ↔ ∀ name, name ∈ names ↔ name ∈ names' := by
  constructor
  · intro h name
    rw [← mem_sortedNames, h, mem_sortedNames]
  · intro h
    refine (pairwise_sortedNames names).eq_of_mem_iff (pairwise_sortedNames names') fun name => ?_
    rw [mem_sortedNames, mem_sortedNames, h]

/-- Whether a name is a word of the language, which is never taken for a reference. -/
def IsWord (name : String) : Prop :=
  isReservedName name = true ∨ name = valueName

instance (name : String) : Decidable (IsWord name) :=
  inferInstanceAs (Decidable (_ ∨ _))

/-! ### Levels -/

theorem levels_mono {nodes nodes' : List Node} (h : nodes ⊆ nodes') (k : Nat) :
    levels k nodes ⊆ levels k nodes' := by
  induction k generalizing nodes nodes' with
  | zero => exact List.nil_subset _
  | succ k ih =>
      have hchildren : nodes.flatMap Node.children ⊆ nodes'.flatMap Node.children := by
        intro n hn
        obtain ⟨parent, hparent, hn⟩ := List.mem_flatMap.mp hn
        exact List.mem_flatMap.mpr ⟨parent, h hparent, hn⟩
      exact List.append_subset.mpr
        ⟨List.subset_append_of_subset_left _ h, List.subset_append_of_subset_right _ (ih hchildren)⟩

theorem levels_le {k k' : Nat} (h : k ≤ k') (nodes : List Node) :
    levels k nodes ⊆ levels k' nodes := by
  induction k generalizing k' nodes with
  | zero => exact List.nil_subset _
  | succ k ih =>
      obtain ⟨k', rfl⟩ : ∃ n, k' = n + 1 := ⟨k' - 1, by omega⟩
      exact List.append_subset.mpr ⟨List.subset_append_left _ _,
        List.subset_append_of_subset_right _ (ih (by omega) _)⟩

theorem mem_levels_of_children {parent n : Node} {k k' : Nat} (nodes : List Node)
    (hnodes : nodes ⊆ parent.children) (hk : k ≤ k') (h : n ∈ levels k nodes) :
    n ∈ levels (k' + 1) [parent] := by
  have hbelow : n ∈ levels k' ([parent].flatMap Node.children) := by
    rw [List.flatMap_singleton]
    exact levels_mono hnodes k' (levels_le hk nodes h)
  exact List.mem_append_right _ hbelow

theorem mem_levels_cons_left {n a : Node} {k k' : Nat} {nodes : List Node} (hk : k ≤ k')
    (h : n ∈ levels k [a]) : n ∈ levels k' (a :: nodes) :=
  levels_mono (by simp) k' (levels_le hk [a] h)

theorem mem_levels_cons_right {n a : Node} {k k' : Nat} {nodes : List Node} (hk : k ≤ k')
    (h : n ∈ levels k nodes) : n ∈ levels k' (a :: nodes) :=
  levels_mono (List.subset_cons_self _ _) k' (levels_le hk nodes h)

/-! ### Names -/

mutual

theorem mem_levels_of_mem_reads (e : Expr) {id : String} (h : id ∈ e.reads) :
    .expr (.name id) ∈ levels e.height [.expr e] := by
  cases e with
  | constant v => simp [Expr.reads] at h
  | name id' =>
      simp only [Expr.reads, List.mem_singleton] at h
      subst h
      simp [Expr.height, levels]
  | unary op e =>
      simp only [Expr.reads] at h
      exact mem_levels_of_children _ (by simp [Node.children]) (Nat.le_refl _)
        (mem_levels_of_mem_reads e h)
  | binary op l r =>
      simp only [Expr.reads, List.mem_append] at h
      rcases h with h | h
      · exact mem_levels_of_children [.expr l] (by simp [Node.children])
          (Nat.le_max_left _ _) (mem_levels_of_mem_reads l h)
      · exact mem_levels_of_children [.expr r] (by simp [Node.children])
          (Nat.le_max_right _ _) (mem_levels_of_mem_reads r h)
  | all es | any es | list es | tuple es | set es =>
      simp only [Expr.reads] at h
      exact mem_levels_of_children _ (List.Subset.refl _) (Nat.le_refl _)
        (mem_levels_of_mem_readsOfAll es h)
  | compare first links =>
      simp only [Expr.reads, List.mem_append] at h
      rcases h with h | h
      · exact mem_levels_of_children [.expr first] (by simp [Node.children])
          (Nat.le_max_left _ _) (mem_levels_of_mem_reads first h)
      · exact mem_levels_of_children _ (List.subset_cons_self _ _) (Nat.le_max_right _ _)
          (mem_levels_of_mem_readsOfLinks links h)
  | choice test yes no =>
      simp only [Expr.reads, List.mem_append] at h
      rcases h with h | h | h
      · exact mem_levels_of_children [.expr test] (by simp [Node.children])
          (by simp) (mem_levels_of_mem_reads test h)
      · exact mem_levels_of_children [.expr yes] (by simp [Node.children])
          (by simp) (mem_levels_of_mem_reads yes h)
      · exact mem_levels_of_children [.expr no] (by simp [Node.children])
          (by simp) (mem_levels_of_mem_reads no h)
  | call f args keywords =>
      simp only [Expr.reads, List.mem_append] at h
      rcases h with h | h
      · exact mem_levels_of_children (args.map .expr)
          (fun n hn => by simp [Node.children, List.mem_map.mp hn]) (by simp)
          (mem_levels_of_mem_readsOfAll args h)
      · exact mem_levels_of_children (keywords.map fun k => .keyword k.2)
          (fun n hn => by simp [Node.children, List.mem_map.mp hn]) (by simp)
          (mem_levels_of_mem_readsOfKeywords keywords h)
  | dict entries =>
      simp only [Expr.reads] at h
      exact mem_levels_of_children _ (List.Subset.refl _) (Nat.le_refl _)
        (mem_levels_of_mem_readsOfEntries entries h)
  | merged parts => simp [Expr.reads] at h
  | starred e => simp [Expr.reads] at h
  | other element parts => simp [Expr.reads] at h

theorem mem_levels_of_mem_readsOfAll (es : List Expr) {id : String} (h : id ∈ readsOfAll es) :
    .expr (.name id) ∈ levels (heightOfAll es) (es.map .expr) := by
  cases es with
  | nil => simp [readsOfAll] at h
  | cons e es =>
      simp only [readsOfAll, List.mem_append] at h
      rcases h with h | h
      · exact mem_levels_cons_left (Nat.le_max_left _ _) (mem_levels_of_mem_reads e h)
      · exact mem_levels_cons_right (Nat.le_max_right _ _) (mem_levels_of_mem_readsOfAll es h)

theorem mem_levels_of_mem_readsOfLinks (links : List (Comparison × Expr)) {id : String}
    (h : id ∈ readsOfLinks links) :
    .expr (.name id) ∈ levels (heightOfLinks links) (links.map fun l => .expr l.2) := by
  cases links with
  | nil => simp [readsOfLinks] at h
  | cons link rest =>
      obtain ⟨c, e⟩ := link
      simp only [readsOfLinks, List.mem_append] at h
      rcases h with h | h
      · exact mem_levels_cons_left (Nat.le_max_left _ _) (mem_levels_of_mem_reads e h)
      · exact mem_levels_cons_right (Nat.le_max_right _ _)
          (mem_levels_of_mem_readsOfLinks rest h)

theorem mem_levels_of_mem_readsOfKeywords (keywords : List (Option String × Expr)) {id : String}
    (h : id ∈ readsOfKeywords keywords) : .expr (.name id) ∈
      levels (heightOfKeywords keywords + 1) (keywords.map fun k => .keyword k.2) := by
  cases keywords with
  | nil => simp [readsOfKeywords] at h
  | cons keyword rest =>
      obtain ⟨name, e⟩ := keyword
      simp only [readsOfKeywords, List.mem_append] at h
      rcases h with h | h
      · refine mem_levels_cons_left (Nat.succ_le_succ (Nat.le_max_left _ _))
          (mem_levels_of_children [.expr e] (by simp [Node.children]) (Nat.le_refl _)
            (mem_levels_of_mem_reads e h))
      · exact mem_levels_cons_right (Nat.succ_le_succ (Nat.le_max_right _ _))
          (mem_levels_of_mem_readsOfKeywords rest h)

theorem mem_levels_of_mem_readsOfEntries (entries : List (Expr × Expr)) {id : String}
    (h : id ∈ readsOfEntries entries) : .expr (.name id) ∈ levels (heightOfEntries entries)
      ((entries.map fun e => .expr e.1) ++ entries.map fun e => .expr e.2) := by
  cases entries with
  | nil => simp [readsOfEntries] at h
  | cons entry rest =>
      obtain ⟨k, v⟩ := entry
      simp only [readsOfEntries, List.mem_append] at h
      rcases h with h | h | h
      · exact mem_levels_cons_left (by simp [heightOfEntries]) (mem_levels_of_mem_reads k h)
      · refine levels_mono (fun n hn => ?_) _
          (levels_le (by simp [heightOfEntries]) _ (mem_levels_of_mem_reads v h))
        simp [List.mem_singleton.mp hn]
      · refine levels_mono (fun n hn => ?_) _
          (levels_le (by simp [heightOfEntries]) _ (mem_levels_of_mem_readsOfEntries rest h))
        rcases List.mem_append.mp hn with hn | hn
        · simp [hn]
        · simp [hn]

end

theorem mem_references_of_mem_reads {e : Expr} {id : String} (h : id ∈ e.reads) :
    id ∈ e.references ∨ IsWord id := by
  by_cases hword : IsWord id
  · exact .inr hword
  · refine .inl ?_
    unfold IsWord at hword
    rw [not_or] at hword
    unfold Expr.references
    rw [mem_sortedNames, List.mem_filter, List.mem_filterMap]
    exact ⟨⟨_, mem_levels_of_mem_reads e h, rfl⟩, by simp [hword.1, hword.2]⟩

theorem mem_references_of_mem_formulaReads {text name : String} {names : List String}
    (hreferences : references text = .ok names) (h : name ∈ formulaReads text) :
    name ∈ names ∨ IsWord name := by
  unfold references at hreferences
  unfold formulaReads at h
  cases hparse : parse text with
  | error f =>
      rw [hparse] at h
      cases h
  | ok e =>
      rw [hparse] at h hreferences
      cases hreferences
      exact mem_references_of_mem_reads h

theorem exists_references_of_problem?_eq_none {text : String} (h : problem? text = none) :
    ∃ names, references text = .ok names := by
  unfold problem? at h
  unfold references
  split at h
  · cases h
  · cases hparse : parse text with
    | error f =>
        rw [hparse] at h
        cases f <;> cases h
    | ok e => exact ⟨e.references, rfl⟩

/-- An accepted expression has references, and its evaluation reads nothing else of a record but
words of the language: over two records in which these mean the same, it has the same value or
fails for the same reason. -/
theorem evaluateFormula_of_accepted {text : String} (haccepted : problem? text = none) :
    ∃ names, references text = .ok names ∧ ∀ scope scope' : Record,
      AgreeOn names scope scope' → (∀ word, IsWord word → scope.get? word = scope'.get? word) →
        evaluateFormula text scope = evaluateFormula text scope' := by
  obtain ⟨names, hnames⟩ := exists_references_of_problem?_eq_none haccepted
  refine ⟨names, hnames, fun scope scope' hnamed hwords => evaluateFormula_congr ?_⟩
  intro name hname
  rcases mem_references_of_mem_formulaReads hnames hname with hreference | hword
  · exact hnamed name hreference
  · exact hwords name hword

def bounded : String := "0 < value <= (limit if limit else len(name))"

/-- Two records that differ in fields that the condition does not name, and in their order. -/
theorem bounded_agrees : problem? bounded = none ∧ references bounded = .ok ["limit", "name"] ∧
    evaluateFormula bounded [("name", .text "a"), ("limit", .int 40), ("value", .int 9)] =
      evaluateFormula bounded
        [("other", .null), ("value", .int 9), ("limit", .int 40), ("name", .text "a")] := by
  have haccepted : problem? bounded = none := by decide +kernel
  have hreferences : references bounded = .ok ["limit", "name"] := by decide +kernel
  obtain ⟨names, hnames, hsame⟩ := evaluateFormula_of_accepted haccepted
  cases hnames.symm.trans hreferences
  refine ⟨haccepted, hreferences, hsame _ _ ?_ fun word hword => ?_⟩
  · simp [AgreeOn, Record.get?]
  · have hfields : ∀ name ∈ ["name", "limit", "other"], ¬IsWord name := by decide
    have hne : ∀ name ∈ ["name", "limit", "other"], name ≠ word :=
      fun name hname heq => hfields name hname (heq ▸ hword)
    simp [Record.get?, hne "name", hne "limit", hne "other"]

end FieldPipeline.Expression
