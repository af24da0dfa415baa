import FieldPipeline.Expression.Formula

/-!
The names that an expression reads.  Over two records that agree on these, an expression has the
same value.
-/

namespace FieldPipeline.Expression

mutual

def Expr.reads : Expr → List String
  | .constant _ | .merged _ | .starred _ | .other _ _ => []
  | .name id => [id]
  | .unary _ e => e.reads
  | .binary _ l r => l.reads ++ r.reads
  | .all es | .any es | .list es | .tuple es | .set es => readsOfAll es
  | .compare first links => first.reads ++ readsOfLinks links
  | .choice test yes no => test.reads ++ (yes.reads ++ no.reads)
  | .call _ args keywords => readsOfAll args ++ readsOfKeywords keywords
  | .dict entries => readsOfEntries entries

def readsOfAll : List Expr → List String
  | [] => []
  | e :: es => e.reads ++ readsOfAll es

def readsOfLinks : List (Comparison × Expr) → List String
  | [] => []
  | (_, e) :: rest => e.reads ++ readsOfLinks rest

def readsOfKeywords : List (Option String × Expr) → List String
  | [] => []
  | (_, e) :: rest => e.reads ++ readsOfKeywords rest

def readsOfEntries : List (Expr × Expr) → List String
  | [] => []
  | (k, v) :: rest => k.reads ++ (v.reads ++ readsOfEntries rest)

end

def AgreeOn (names : List String) (scope scope' : Record) : Prop :=
  ∀ name ∈ names, scope.get? name = scope'.get? name

namespace AgreeOn

variable {scope scope' : Record} {names others : List String}

theorem left (h : AgreeOn (names ++ others) scope scope') : AgreeOn names scope scope' :=
  fun name hname => h name (List.mem_append_left _ hname)

theorem right (h : AgreeOn (names ++ others) scope scope') : AgreeOn others scope scope' :=
  fun name hname => h name (List.mem_append_right _ hname)

end AgreeOn

variable {scope scope' : Record}

theorem lookUp_congr {id : String} (h : scope.get? id = scope'.get? id) :
    lookUp scope id = lookUp scope' id := by
  unfold lookUp
  rw [h]

mutual

theorem evaluate_congr (e : Expr) (h : AgreeOn e.reads scope scope') :
    evaluate scope e = evaluate scope' e := by
  cases e with
  | constant v => simp only [evaluate]
  | name id =>
      simp only [evaluate]
      exact lookUp_congr (h id (by simp [Expr.reads]))
  | unary op e =>
      simp only [Expr.reads] at h
      cases op <;> simp only [evaluate, evaluate_congr e h]
  | binary op l r =>
      simp only [Expr.reads] at h
      simp only [evaluate, evaluate_congr l h.left, evaluate_congr r h.right]
  | all es =>
      simp only [Expr.reads] at h
      simp only [evaluate, evaluateAll_congr es _ h]
  | any es =>
      simp only [Expr.reads] at h
      simp only [evaluate, evaluateAny_congr es _ h]
  | compare first links =>
      simp only [Expr.reads] at h
      simp only [evaluate, evaluate_congr first h.left, evaluateLinks_congr links _ _ h.right]
  | choice test yes no =>
      simp only [Expr.reads] at h
      simp only [evaluate, evaluate_congr test h.left, evaluate_congr yes h.right.left,
        evaluate_congr no h.right.right]
  | call f args keywords =>
      simp only [Expr.reads] at h
      cases f <;> simp only [evaluate, evaluateArguments_congr args h.left,
        evaluateKeywords_congr keywords h.right]
  | list es =>
      simp only [Expr.reads] at h
      simp only [evaluate, evaluateItems_congr es h]
  | tuple es =>
      simp only [Expr.reads] at h
      simp only [evaluate, evaluateItems_congr es h]
  | set es =>
      simp only [Expr.reads] at h
      simp only [evaluate, evaluateItems_congr es h]
  | dict entries =>
      simp only [Expr.reads] at h
      simp only [evaluate, evaluateEntries_congr entries _ h]
  | merged parts => simp only [evaluate]
  | starred e => simp only [evaluate]
  | other element parts => simp only [evaluate]

theorem evaluateAll_congr (es : List Expr) (last : Value)
    (h : AgreeOn (readsOfAll es) scope scope') :
    evaluateAll scope last es = evaluateAll scope' last es := by
  cases es with
  | nil => simp only [evaluateAll]
  | cons e es =>
      simp only [readsOfAll] at h
      simp only [evaluateAll, evaluate_congr e h.left, fun v => evaluateAll_congr es v h.right]

theorem evaluateAny_congr (es : List Expr) (last : Value)
    (h : AgreeOn (readsOfAll es) scope scope') :
    evaluateAny scope last es = evaluateAny scope' last es := by
  cases es with
  | nil => simp only [evaluateAny]
  | cons e es =>
      simp only [readsOfAll] at h
      simp only [evaluateAny, evaluate_congr e h.left, fun v => evaluateAny_congr es v h.right]

theorem evaluateLinks_congr (links : List (Comparison × Expr)) (left : Expr) (v : Value)
    (h : AgreeOn (readsOfLinks links) scope scope') :
    evaluateLinks scope left v links = evaluateLinks scope' left v links := by
  cases links with
  | nil => simp only [evaluateLinks]
  | cons link rest =>
      obtain ⟨c, e⟩ := link
      simp only [readsOfLinks] at h
      simp only [evaluateLinks, evaluate_congr e h.left,
        fun w => evaluateLinks_congr rest e w h.right]

theorem evaluateItems_congr (es : List Expr) (h : AgreeOn (readsOfAll es) scope scope') :
    evaluateItems scope es = evaluateItems scope' es := by
  cases es with
  | nil => simp only [evaluateItems]
  | cons e es =>
      simp only [readsOfAll] at h
      simp only [evaluateItems, evaluate_congr e h.left, evaluateItems_congr es h.right]

theorem evaluateEntries_congr (entries : List (Expr × Expr)) (acc : List (Value × Value))
    (h : AgreeOn (readsOfEntries entries) scope scope') :
    evaluateEntries scope acc entries = evaluateEntries scope' acc entries := by
  cases entries with
  | nil => simp only [evaluateEntries]
  | cons entry rest =>
      obtain ⟨k, v⟩ := entry
      simp only [readsOfEntries] at h
      simp only [evaluateEntries, evaluate_congr k h.left, evaluate_congr v h.right.left,
        fun acc => evaluateEntries_congr rest acc h.right.right]

theorem evaluateArguments_congr (es : List Expr) (h : AgreeOn (readsOfAll es) scope scope') :
    evaluateArguments scope es = evaluateArguments scope' es := by
  cases es with
  | nil => simp only [evaluateArguments]
  | cons e es =>
      simp only [readsOfAll] at h
      cases e <;> simp only [evaluateArguments, evaluate_congr _ h.left,
        evaluateArguments_congr es h.right]

theorem evaluateKeywords_congr (keywords : List (Option String × Expr))
    (h : AgreeOn (readsOfKeywords keywords) scope scope') :
    evaluateKeywords scope keywords = evaluateKeywords scope' keywords := by
  cases keywords with
  | nil => simp only [evaluateKeywords]
  | cons keyword rest =>
      obtain ⟨name, e⟩ := keyword
      simp only [readsOfKeywords] at h
      cases name with
      | none => simp only [evaluateKeywords]
      | some name =>
          simp only [evaluateKeywords, evaluate_congr e h.left,
            evaluateKeywords_congr rest h.right]

end

def formulaReads (formula : String) : List String :=
  match parse formula with
  | .ok e => e.reads
  | .error _ => []

theorem evaluateFormula_congr {formula : String}
    (h : AgreeOn (formulaReads formula) scope scope') :
    evaluateFormula formula scope = evaluateFormula formula scope' := by
  unfold evaluateFormula
  unfold formulaReads at h
  cases hparse : parse formula with
  | error f => rfl
  | ok e =>
      rw [hparse] at h
      dsimp only
      rw [evaluate_congr e h]

theorem conditionHolds_congr {condition : String}
    (h : AgreeOn (formulaReads condition) scope scope') :
    conditionHolds condition scope = conditionHolds condition scope' := by
  unfold conditionHolds
  rw [evaluateFormula_congr h]

end FieldPipeline.Expression
