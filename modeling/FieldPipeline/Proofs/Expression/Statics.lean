import FieldPipeline.Proofs.Expression.References

/-!
What the evaluation of a checked expression can still stumble over, besides the values that it
works on: an inversion, which the check lets pass, and a name that the record does not have.
-/

namespace FieldPipeline.Expression

def Obstacle.IsStatic : Obstacle → Prop
  | .fault _ => False
  | _ => True

/-- What remains of the obstacles in expressions once their nodes are checked. -/
inductive Stuck (scope : Record) (nodes : List Node) (reads : List String) : Obstacle → Prop
  | inversion (e : Expr) (h : .expr (.unary .invert e) ∈ nodes) :
      Stuck scope nodes reads (.unaryOperator "Invert")
  | unknown (id : String) (hreads : id ∈ reads) (hword : isReservedName id = false)
      (hscope : scope.get? id = none) : Stuck scope nodes reads (.unknownName id)

/-- Whether a result that depends on some nodes fails by what remains when all of them are
checked, or else by the values. -/
def Checked {α : Type} (scope : Record) (nodes : List Node) (reads : List String)
    (x : Except Obstacle α) : Prop :=
  (∀ n ∈ nodes, n.problem? = none) → ∀ o, x = .error o → o.IsStatic → Stuck scope nodes reads o

namespace Checked

variable {α β : Type} {scope : Record} {nodes nodes' : List Node} {reads reads' : List String}

theorem mono {x : Except Obstacle α} (h : Checked scope nodes reads x) (hnodes : nodes ⊆ nodes')
    (hreads : reads ⊆ reads') : Checked scope nodes' reads' x := by
  intro hclean o ho hstatic
  cases h (fun n hn => hclean n (hnodes hn)) o ho hstatic with
  | inversion e hmem => exact .inversion e (hnodes hmem)
  | unknown id hmem hword hscope => exact .unknown id (hreads hmem) hword hscope

theorem ok (a : α) : Checked scope nodes reads (.ok a) :=
  fun _ _ ho => by cases ho

theorem fault (f : Fault) : Checked scope nodes reads (.error (.fault f) : Except Obstacle α) := by
  intro _ o ho hstatic
  cases ho
  cases hstatic

theorem lifted (r : Except Fault α) : Checked scope nodes reads (Expression.lifted r) := by
  cases r with
  | ok a => exact ok a
  | error f => exact fault f

theorem bind {x : Except Obstacle α} {f : α → Except Obstacle β}
    (hx : Checked scope nodes reads x) (hf : ∀ a, Checked scope nodes reads (f a)) :
    Checked scope nodes reads (x >>= f) := by
  intro hclean o ho hstatic
  cases x with
  | ok a => exact hf a hclean o ho hstatic
  | error o' =>
      cases ho
      exact hx hclean _ rfl hstatic

theorem map {x : Except Obstacle α} (f : α → β) (hx : Checked scope nodes reads x) :
    Checked scope nodes reads (x.map f) := by
  intro hclean o ho hstatic
  cases x with
  | ok a => cases ho
  | error o' =>
      cases ho
      exact hx hclean _ rfl hstatic

theorem of_problem {x : Except Obstacle α} {n : Node} {p : Problem} (hn : n ∈ nodes)
    (hp : n.problem? = some p) : Checked scope nodes reads x := by
  intro hclean
  rw [hclean n hn] at hp
  cases hp

end Checked

theorem mem_levels_self (n : Node) (k : Nat) : n ∈ levels (k + 1) [n] :=
  List.mem_append_left _ (List.mem_singleton_self n)

namespace Checked

variable {α : Type} {scope : Record} {nodes : List Node} {reads reads' : List String} {k k' : Nat}
  {x : Except Obstacle α}

theorem below {parent : Node} (nodes : List Node) (hnodes : nodes ⊆ parent.children)
    (hk : k ≤ k') (hreads : reads ⊆ reads') (h : Checked scope (levels k nodes) reads x) :
    Checked scope (levels (k' + 1) [parent]) reads' x :=
  h.mono (fun _ hn => mem_levels_of_children nodes hnodes hk hn) hreads

theorem first {n : Node} (hk : k ≤ k') (h : Checked scope (levels k [n]) reads x) :
    Checked scope (levels k' (n :: nodes)) (reads ++ reads') x :=
  h.mono (fun _ hn => mem_levels_cons_left hk hn) (List.subset_append_left _ _)

theorem rest {n : Node} (hk : k ≤ k') (h : Checked scope (levels k nodes) reads' x) :
    Checked scope (levels k' (n :: nodes)) (reads ++ reads') x :=
  h.mono (fun _ hn => mem_levels_cons_right hk hn) (List.subset_append_right _ _)

end Checked

variable {scope : Record}

theorem checked_lookUp (id : String) (k : Nat) :
    Checked scope (levels (k + 1) [.expr (.name id)]) [id] (lookUp scope id) := by
  unfold lookUp
  split
  · rename_i hdunder
    exact .of_problem (mem_levels_self _ k) (p := .dunderName) (by simp [Node.problem?, hdunder])
  · split
    · exact .ok _
    · rename_i hscope
      split
      · exact .ok _
      · rename_i hbuiltin
        split
        · exact .ok _
        · rename_i hconstant
          intro _ o ho _
          cases ho
          exact .unknown id (by simp) (by simp [isReservedName, hbuiltin, hconstant]) hscope

theorem checked_applyUnary {op : UnaryOp} (hop : op ≠ .invert) (v : Value) (nodes : List Node)
    (reads : List String) : Checked scope nodes reads (op.apply v) := by
  cases op with
  | plus => exact .lifted _
  | minus => exact .lifted _
  | not => exact .ok _
  | invert => exact absurd rfl hop

theorem checked_applyBinary {op : BinaryOp} (hop : op.refused? = none) (v w : Value)
    (nodes : List Node) (reads : List String) : Checked scope nodes reads (op.apply v w) := by
  cases op with
  | add | sub | mul | div | floorDiv | mod | pow => exact .lifted _
  | matMult | leftShift | rightShift | bitOr | bitXor | bitAnd => cases hop

theorem checked_makeSet (xs : List Value) (nodes : List Node) (reads : List String) :
    Checked scope nodes reads (makeSet xs) := by
  unfold makeSet
  split
  · exact .ok _
  · exact .fault _

theorem callProblem?_eq_none {f : Expr} {args : List Expr}
    {keywords : List (Option String × Expr)} (h : callProblem? f args keywords = none) :
    ∃ id b, f = .name id ∧ Builtin.named? id = some b ∧
      ∀ k ∈ keywords, k.1.isSome = true := by
  unfold callProblem? at h
  split at h
  · rename_i id
    cases hb : Builtin.named? id with
    | none => simp [hb] at h
    | some b =>
        refine ⟨id, b, rfl, hb, fun k hk => ?_⟩
        simp only [hb, Option.isNone_some, Bool.false_eq_true, if_false] at h
        split at h
        · cases h
        · split at h
          · cases h
          · rename_i hsplat
            cases hname : k.1 with
            | none => exact absurd (List.any_eq_true.mpr ⟨k, hk, by simp [hname]⟩) hsplat
            | some name => rfl
  · cases h

mutual

theorem checked_evaluate (e : Expr) :
    Checked scope (levels e.height [.expr e]) e.reads (evaluate scope e) := by
  cases e with
  | constant v =>
      simp only [evaluate]
      exact .ok _
  | name id =>
      simp only [evaluate]
      exact checked_lookUp id 0
  | unary op e =>
      have he : Checked scope (levels (Expr.unary op e).height [.expr (.unary op e)]) e.reads
          (evaluate scope e) :=
        (checked_evaluate e).below [.expr e] (by simp [Node.children]) (Nat.le_refl _)
          (List.Subset.refl _)
      cases op with
      | invert =>
          simp only [evaluate]
          intro _ o ho _
          cases ho
          exact .inversion e (mem_levels_self _ _)
      | plus | minus | not =>
          simp only [evaluate]
          exact he.bind fun v => checked_applyUnary (by decide) v _ _
  | binary op l r =>
      simp only [evaluate]
      cases hop : op.refused? with
      | some name =>
          exact .of_problem (mem_levels_self _ _) (p := .operator name)
            (by simp [Node.problem?, hop])
      | none =>
          refine .bind ?_ fun v => .bind ?_ fun w => checked_applyBinary hop v w _ _
          · exact (checked_evaluate l).below [.expr l] (by simp [Node.children])
              (Nat.le_max_left _ _) (List.subset_append_left _ _)
          · exact (checked_evaluate r).below [.expr r] (by simp [Node.children])
              (Nat.le_max_right _ _) (List.subset_append_right _ _)
  | all es =>
      simp only [evaluate]
      exact (checked_evaluateAll es _).below _ (List.Subset.refl _) (Nat.le_refl _)
        (List.Subset.refl _)
  | any es =>
      simp only [evaluate]
      exact (checked_evaluateAny es _).below _ (List.Subset.refl _) (Nat.le_refl _)
        (List.Subset.refl _)
  | compare first links =>
      simp only [evaluate]
      refine .bind ?_ fun v => ?_
      · exact (checked_evaluate first).below [.expr first] (by simp [Node.children])
          (Nat.le_max_left _ _) (List.subset_append_left _ _)
      · exact (checked_evaluateLinks links first v).below _ (List.subset_cons_self _ _)
          (Nat.le_max_right _ _) (List.subset_append_right _ _)
  | choice test yes no =>
      simp only [evaluate]
      refine .bind ?_ fun t => ?_
      · exact (checked_evaluate test).below [.expr test] (by simp [Node.children]) (by simp)
          (List.subset_append_left _ _)
      · split
        · exact (checked_evaluate yes).below [.expr yes] (by simp [Node.children]) (by simp)
            (by simp [Expr.reads])
        · exact (checked_evaluate no).below [.expr no] (by simp [Node.children]) (by simp)
            (by simp [Expr.reads])
  | call f args keywords =>
      cases hproblem : callProblem? f args keywords with
      | some p =>
          exact .of_problem (mem_levels_self _ _) (p := p) (by simp [Node.problem?, hproblem])
      | none =>
          obtain ⟨id, b, rfl, hb, hnamed⟩ := callProblem?_eq_none hproblem
          simp only [evaluate, hb]
          refine .bind ?_ fun placed => .bind ?_ fun named => .lifted _
          · exact (checked_evaluateArguments args).below (args.map .expr)
              (fun n hn => by simp [Node.children, List.mem_map.mp hn]) (by simp)
              (List.subset_append_left _ _)
          · exact (checked_evaluateKeywords keywords hnamed).below
              (keywords.map fun k => .keyword k.2)
              (fun n hn => by simp [Node.children, List.mem_map.mp hn]) (by simp)
              (List.subset_append_right _ _)
  | list es | tuple es =>
      simp only [evaluate]
      exact ((checked_evaluateItems es).map _).below _ (List.Subset.refl _) (Nat.le_refl _)
        (List.Subset.refl _)
  | set es =>
      simp only [evaluate]
      refine .bind ?_ fun xs => checked_makeSet xs _ _
      exact (checked_evaluateItems es).below _ (List.Subset.refl _) (Nat.le_refl _)
        (List.Subset.refl _)
  | dict entries =>
      simp only [evaluate]
      exact ((checked_evaluateEntries entries []).map _).below _ (List.Subset.refl _)
        (Nat.le_refl _) (List.Subset.refl _)
  | merged parts => exact .of_problem (mem_levels_self _ _) (p := .dictSpread) rfl
  | starred e => exact .of_problem (mem_levels_self _ _) (p := .element "Starred") rfl
  | other element parts => exact .of_problem (mem_levels_self _ _) (p := .element element) rfl

theorem checked_evaluateAll (es : List Expr) (last : Value) :
    Checked scope (levels (heightOfAll es) (es.map .expr)) (readsOfAll es)
      (evaluateAll scope last es) := by
  cases es with
  | nil =>
      simp only [evaluateAll]
      exact .ok _
  | cons e es =>
      simp only [evaluateAll]
      refine .bind ((checked_evaluate e).first (Nat.le_max_left _ _)) fun v => ?_
      split
      · exact (checked_evaluateAll es v).rest (Nat.le_max_right _ _)
      · exact .ok _

theorem checked_evaluateAny (es : List Expr) (last : Value) :
    Checked scope (levels (heightOfAll es) (es.map .expr)) (readsOfAll es)
      (evaluateAny scope last es) := by
  cases es with
  | nil =>
      simp only [evaluateAny]
      exact .ok _
  | cons e es =>
      simp only [evaluateAny]
      refine .bind ((checked_evaluate e).first (Nat.le_max_left _ _)) fun v => ?_
      split
      · exact .ok _
      · exact (checked_evaluateAny es v).rest (Nat.le_max_right _ _)

theorem checked_evaluateLinks (links : List (Comparison × Expr)) (left : Expr) (v : Value) :
    Checked scope (levels (heightOfLinks links) (links.map fun l => .expr l.2))
      (readsOfLinks links) (evaluateLinks scope left v links) := by
  cases links with
  | nil =>
      simp only [evaluateLinks]
      exact .ok _
  | cons link rest =>
      obtain ⟨c, e⟩ := link
      simp only [evaluateLinks]
      refine .bind ((checked_evaluate e).first (Nat.le_max_left _ _)) fun w =>
        .bind (.lifted _) fun holds => ?_
      split
      · exact (checked_evaluateLinks rest e w).rest (Nat.le_max_right _ _)
      · exact .ok _

theorem checked_evaluateItems (es : List Expr) :
    Checked scope (levels (heightOfAll es) (es.map .expr)) (readsOfAll es)
      (evaluateItems scope es) := by
  cases es with
  | nil =>
      simp only [evaluateItems]
      exact .ok _
  | cons e es =>
      simp only [evaluateItems]
      exact .bind ((checked_evaluate e).first (Nat.le_max_left _ _)) fun v =>
        .bind ((checked_evaluateItems es).rest (Nat.le_max_right _ _)) fun vs => .ok _

theorem checked_evaluateEntries (entries : List (Expr × Expr)) (acc : List (Value × Value)) :
    Checked scope (levels (heightOfEntries entries)
      ((entries.map fun e => .expr e.1) ++ entries.map fun e => .expr e.2))
      (readsOfEntries entries) (evaluateEntries scope acc entries) := by
  cases entries with
  | nil =>
      simp only [evaluateEntries]
      exact .ok _
  | cons entry rest =>
      obtain ⟨k, v⟩ := entry
      simp only [evaluateEntries]
      refine .bind ((checked_evaluate k).first (Nat.le_max_left _ _)) fun key =>
        .bind ?_ fun value => ?_
      · refine (checked_evaluate v).mono (fun n hn => ?_) (by simp [readsOfEntries])
        refine levels_mono (fun n' hn' => ?_) _
          (levels_le (by simp [heightOfEntries]) _ hn)
        simp [List.mem_singleton.mp hn']
      · split
        · refine (checked_evaluateEntries rest _).mono (fun n hn => ?_) (by simp [readsOfEntries])
          refine levels_mono (fun n' hn' => ?_) _
            (levels_le (by simp [heightOfEntries]) _ hn)
          rcases List.mem_append.mp hn' with hn' | hn' <;> simp [hn']
        · exact .fault _

theorem checked_evaluateArguments (es : List Expr) :
    Checked scope (levels (heightOfAll es) (es.map .expr)) (readsOfAll es)
      (evaluateArguments scope es) := by
  cases es with
  | nil =>
      simp only [evaluateArguments]
      exact .ok _
  | cons e es =>
      have hvalue : Checked scope _ _ (evaluate scope e) := checked_evaluate e
      have hvalues : Checked scope _ _ (evaluateArguments scope es) := checked_evaluateArguments es
      cases e with
      | starred e =>
          have hmem : .expr (.starred e) ∈ levels (Expr.starred e).height [.expr (.starred e)] :=
            mem_levels_self _ _
          exact .of_problem (mem_levels_cons_left (Nat.le_max_left _ _) hmem)
            (p := .element "Starred") rfl
      | _ =>
          simp only [evaluateArguments]
          exact .bind (hvalue.first (Nat.le_max_left _ _)) fun v =>
            .bind (hvalues.rest (Nat.le_max_right _ _)) fun vs => .ok _

theorem checked_evaluateKeywords (keywords : List (Option String × Expr))
    (hnamed : ∀ k ∈ keywords, k.1.isSome = true) :
    Checked scope (levels (heightOfKeywords keywords + 1) (keywords.map fun k => .keyword k.2))
      (readsOfKeywords keywords) (evaluateKeywords scope keywords) := by
  cases keywords with
  | nil =>
      simp only [evaluateKeywords]
      exact .ok _
  | cons keyword rest =>
      obtain ⟨name, e⟩ := keyword
      rw [List.forall_mem_cons] at hnamed
      cases name with
      | none => cases hnamed.1
      | some name =>
          simp only [evaluateKeywords]
          have he : Checked scope (levels (e.height + 1) [.keyword e]) e.reads (evaluate scope e) :=
            (checked_evaluate e).below [.expr e] (by simp [Node.children]) (Nat.le_refl _)
              (List.Subset.refl _)
          exact .bind (he.first (Nat.succ_le_succ (Nat.le_max_left _ _))) fun v =>
            .bind ((checked_evaluateKeywords rest hnamed.2).rest
              (Nat.succ_le_succ (Nat.le_max_right _ _))) fun others => .ok _

end

/-- Whether an expression in a text inverts a value bit by bit. -/
def Inverts (text : String) : Prop :=
  ∃ e inner, parse text = .ok e ∧ .expr (.unary .invert inner) ∈ e.nodes

/-- A text that passes the check fails, when it is evaluated, by an inversion, by a name that the
record does not have, or by the values. -/
theorem static_of_problem?_eq_none {text : String} (hproblem : problem? text = none)
    {error : FormulaError} (h : evaluateFormula text scope = .error error)
    (hstatic : error.obstacle.IsStatic) :
    (error.obstacle = .unaryOperator "Invert" ∧ Inverts text) ∨
      ∃ id ∈ formulaReads text, error.obstacle = .unknownName id ∧ isReservedName id = false ∧
        scope.get? id = none := by
  unfold problem? at hproblem
  split at hproblem
  · cases hproblem
  · unfold evaluateFormula at h
    unfold formulaReads
    cases hparse : parse text with
    | error f =>
        rw [hparse] at h
        cases h
        cases hstatic
    | ok e =>
        rw [hparse] at h hproblem
        dsimp only at h hproblem ⊢
        cases hvalue : evaluate scope e with
        | ok v =>
            rw [hvalue] at h
            cases h
        | error o =>
            rw [hvalue] at h
            cases h
            cases checked_evaluate e (List.findSome?_eq_none_iff.mp hproblem) o hvalue hstatic with
            | inversion inner hmem => exact .inl ⟨rfl, e, inner, hparse, hmem⟩
            | unknown id hreads hword hscope => exact .inr ⟨id, hreads, rfl, hword, hscope⟩

end FieldPipeline.Expression
