import FieldPipeline.Modifier.Builtin
import FieldPipeline.Preparation.Application
import FieldPipeline.Proofs.Expression.Reading
import FieldPipeline.Proofs.Record

/-!
What a call of a modifier reads of the record around it: the fields to which its arguments refer,
and the names that its expressions look up.
-/

namespace FieldPipeline

open Expression

def ModifierKind.given : ModifierKind → Nat
  | .activator => 0
  | .validator | .processor => 1

/-- The names that a formula looks up in the record; validators and processors put the value of
their field under a name of its own. -/
def Modifier.namesIn (m : Modifier) (formula : String) : List String :=
  (formulaReads formula).filter fun name => m.kind == .activator || name != valueName

def Modifier.view (m : Modifier) (scope : Record) (v : Value) : Record :=
  if m.kind = .activator then scope else scope.put valueName v

/-- Whether a modifier depends on the record around it only by the names in its formulas. -/
def Modifier.ReadsFormulas (m : Modifier) : Prop :=
  ∀ values args scope scope', values.length = m.kind.given →
    (∀ place ∈ m.expressionArgs, ∃ formula, args[place]? = some (.text formula) ∧
      AgreeOn (m.namesIn formula) scope scope') →
    m.apply (values ++ args) scope = m.apply (values ++ args) scope'

namespace Modifier

theorem formulaOver_congr {formula : String} {scope scope' : Record}
    (h : AgreeOn (formulaReads formula) scope scope') :
    formulaOver (.text formula) scope = formulaOver (.text formula) scope' := by
  unfold formulaOver
  dsimp only
  rw [evaluateFormula_congr h]

theorem agreeOn_put {m : Modifier} {formula : String}
    {scope scope' : Record} (h : AgreeOn (m.namesIn formula) scope scope') (v : Value) :
    AgreeOn (formulaReads formula) (scope.put "value" v) (scope'.put "value" v) := by
  intro name hname
  rw [Record.get?_put, Record.get?_put]
  by_cases hvalue : "value" = name
  · rw [if_pos hvalue, if_pos hvalue]
  · rw [if_neg hvalue, if_neg hvalue]
    refine h name (List.mem_filter.mpr ⟨hname, ?_⟩)
    have hne : name ≠ valueName := fun h => hvalue h.symm
    simp [hne]

theorem agreeOn_view {m : Modifier} {formula : String} {scope scope' : Record}
    (h : AgreeOn (m.namesIn formula) scope scope') (v : Value) :
    AgreeOn (formulaReads formula) (m.view scope v) (m.view scope' v) := by
  unfold view
  split
  · rename_i hkind
    exact fun name hname => h name (List.mem_filter.mpr ⟨hname, by simp [hkind]⟩)
  · exact agreeOn_put h v

theorem readsFormulas_formula : Activator.formula.ReadsFormulas := by
  intro values args scope scope' hlength hplaces
  obtain ⟨formula, hformula, hagree⟩ := hplaces 0 (by simp [Activator.formula])
  have hvalues : values = [] := List.eq_nil_of_length_eq_zero hlength
  subst hvalues
  have hnames : AgreeOn (formulaReads formula) scope scope' :=
    fun name hname => hagree name (List.mem_filter.mpr ⟨hname, rfl⟩)
  cases args with
  | nil => cases hformula
  | cons arg rest =>
      cases hformula
      cases rest with
      | nil =>
          simp only [Activator.formula, List.nil_append]
          rw [formulaOver_congr hnames]
      | cons _ _ => rfl

theorem readsFormulas_expression : Validator.expression.ReadsFormulas := by
  intro values args scope scope' hlength hplaces
  obtain ⟨formula, hformula, hagree⟩ := hplaces 0 (by simp [Validator.expression])
  obtain ⟨v, rfl⟩ := List.length_eq_one_iff.mp hlength
  have hnames := agreeOn_put hagree v
  cases args with
  | nil => cases hformula
  | cons arg rest =>
      cases hformula
      cases rest with
      | nil =>
          simp only [Validator.expression, List.cons_append, List.nil_append]
          rw [formulaOver_congr hnames]
      | cons _ _ => rfl

theorem readsFormulas_transform : Processor.transform.ReadsFormulas := by
  intro values args scope scope' hlength hplaces
  obtain ⟨formula, hformula, hagree⟩ := hplaces 0 (by simp [Processor.transform])
  obtain ⟨v, rfl⟩ := List.length_eq_one_iff.mp hlength
  have hnames := agreeOn_put hagree v
  cases args with
  | nil => cases hformula
  | cons arg rest =>
      cases hformula
      cases rest with
      | nil =>
          simp only [Processor.transform, List.cons_append, List.nil_append]
          rw [formulaOver_congr hnames]
      | cons _ _ => rfl

theorem readsFormulas_of_apply_eq {m : Modifier}
    (h : ∀ args scope scope', m.apply args scope = m.apply args scope') : m.ReadsFormulas :=
  fun _ _ _ _ _ _ => h _ _ _

end Modifier

theorem ModifierTable.readsFormulas_builtin : ∀ m ∈ builtin, m.ReadsFormulas := by
  have hvalidator : ∀ name check, (Modifier.Validator.of name check).ReadsFormulas :=
    fun _ _ => Modifier.readsFormulas_of_apply_eq fun _ _ _ => rfl
  have hprocessor : ∀ name change, (Modifier.Processor.of name change).ReadsFormulas :=
    fun _ _ => Modifier.readsFormulas_of_apply_eq fun _ _ _ => rfl
  have hactivator : ∀ name derive, (Modifier.Activator.of name derive).ReadsFormulas :=
    fun _ _ => Modifier.readsFormulas_of_apply_eq fun _ _ _ => rfl
  simp only [builtin, Modifier.Validator.builtin, Modifier.Processor.builtin,
    Modifier.Activator.builtin, List.forall_mem_append, List.forall_mem_cons, hvalidator,
    hprocessor, hactivator, Modifier.readsFormulas_formula, Modifier.readsFormulas_expression,
    Modifier.readsFormulas_transform, true_and]
  simp

namespace Call

def refersTo (c : Call) : List String :=
  c.args.filterMap fun
    | .fieldRef name => some name
    | _ => none

def formulaNames (c : Call) : List String :=
  c.modifier.expressionArgs.flatMap fun place =>
    match c.args[place]? with
    | some (Value.text formula) => c.modifier.namesIn formula
    | _ => []

/-- The names under which a call looks for values in the record around it. -/
def reads (c : Call) : List String :=
  c.refersTo ++ (c.formulaNames ++ (c.condition.map formulaReads).getD [])

def Literal (c : Call) : Prop :=
  ∀ place ∈ c.modifier.expressionArgs, ∃ formula, c.args[place]? = some (.text formula)

variable {c : Call} {scope scope' : Record}

theorem argsIn_congr (h : AgreeOn c.refersTo scope scope') : c.argsIn scope = c.argsIn scope' := by
  unfold argsIn
  refine List.map_congr_left fun v hv => ?_
  cases v with
  | fieldRef name =>
      have hname : name ∈ c.refersTo := List.mem_filterMap.mpr ⟨_, hv, rfl⟩
      dsimp only
      unfold Record.getOrNull
      rw [h name hname]
  | _ => rfl

theorem getElem?_argsIn {place : Nat} {formula : String}
    (h : c.args[place]? = some (.text formula)) (scope : Record) :
    (c.argsIn scope)[place]? = some (.text formula) := by
  unfold argsIn
  rw [List.getElem?_map, h]
  rfl

theorem invoke_congr (hmodifier : c.modifier.ReadsFormulas) (hliteral : c.Literal)
    (h : AgreeOn c.reads scope scope') (entity target : String) (values : List Value)
    (hvalues : values.length = c.modifier.kind.given) :
    c.invoke entity target scope values = c.invoke entity target scope' values := by
  unfold invoke
  rw [argsIn_congr h.left]
  congr 1
  refine hmodifier values _ _ _ hvalues fun place hplace => ?_
  obtain ⟨formula, hformula⟩ := hliteral place hplace
  refine ⟨formula, getElem?_argsIn hformula scope', fun name hname => ?_⟩
  refine h.right.left name (List.mem_flatMap.mpr ⟨place, hplace, ?_⟩)
  rw [hformula]
  exact hname

theorem applies_congr (h : AgreeOn c.reads scope scope') (entity target : String) :
    c.applies entity target scope = c.applies entity target scope' := by
  unfold applies
  cases hcondition : c.condition with
  | none => rfl
  | some condition =>
      dsimp only
      have hnames := h.right.right
      rw [hcondition] at hnames
      rw [conditionHolds_congr hnames]

end Call

end FieldPipeline
