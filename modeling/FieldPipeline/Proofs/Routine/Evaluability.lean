import FieldPipeline.Proofs.Expression.Statics
import FieldPipeline.Proofs.Routine.Completeness
import FieldPipeline.Proofs.Routine.Reaching

/-!
What compiles can be evaluated.  When the guard of a group has let it run, the expressions in it
find all names and use only what is allowed, with two exceptions: an inversion passes the check of
an expression but cannot be evaluated, and an activator, which has no value of its own field yet,
may still name it.
-/

namespace FieldPipeline

open Expression

def Call.texts (c : Call) : List String :=
  (c.modifier.expressionArgs.filterMap fun place =>
    match c.args[place]? with
    | some (Value.text text) => some text
    | _ => none) ++ c.condition.toList

/-- Whether an expression of a call fails when the call is made with some values: its condition,
or one that its modifier evaluates. -/
inductive Call.Fails (scope : Record) (values : List Value) (s : Session) (c : Call)
    (error : FormulaError) : Prop
  | condition (text : String) (htext : c.condition = some text)
      (h : conditionHolds text scope = .error error)
  | modifier
      (h : (exec (c.modifier.apply (values ++ c.argsIn scope) scope) s).1 =
        .error (.formula error))

/-! ### The formulas of modifiers -/

/-- Whether a modifier fails for what lies in a formula only as one of its formulas does. -/
def Modifier.FailsByFormulas (m : Modifier) : Prop :=
  ∀ values args scope s error, values.length = m.kind.given →
    (exec (m.apply (values ++ args) scope) s).1 = .error (.formula error) →
    error.obstacle.IsStatic → ∃ place ∈ m.expressionArgs, ∃ v,
      args[place]? = some (.text error.formula) ∧
        evaluateFormula error.formula (m.view scope v) = .error error

namespace Modifier

theorem formula_of_evaluateFormula {text : String} {scope : Record} {error : FormulaError}
    (h : evaluateFormula text scope = .error error) : error.formula = text := by
  unfold evaluateFormula at h
  split at h
  · cases h
    rfl
  · rename_i e _
    cases hvalue : evaluate scope e with
    | ok v =>
        rw [hvalue] at h
        cases h
    | error o =>
        rw [hvalue] at h
        cases h
        rfl

theorem formulaOver_eq_error {formula : Value} {scope : Record} {error : FormulaError}
    (h : formulaOver formula scope = .error (.formula error)) (hstatic : error.obstacle.IsStatic) :
    formula = .text error.formula ∧ evaluateFormula error.formula scope = .error error := by
  unfold formulaOver at h
  split at h
  · rename_i text
    cases hvalue : evaluateFormula text scope with
    | ok v =>
        rw [hvalue] at h
        cases h
    | error error' =>
        rw [hvalue] at h
        cases h
        obtain rfl := formula_of_evaluateFormula hvalue
        exact ⟨rfl, hvalue⟩
  · cases h
    cases hstatic

theorem failsByFormulas_formula : Activator.formula.FailsByFormulas := by
  intro values args scope s error hlength herror hstatic
  obtain rfl := List.eq_nil_of_length_eq_zero hlength
  rcases args with _ | ⟨formula, _ | ⟨_, _⟩⟩
  · cases herror
  · simp only [Activator.formula, List.nil_append, Run.exec_ofExcept] at herror
    obtain ⟨rfl, hvalue⟩ := formulaOver_eq_error herror hstatic
    exact ⟨0, List.mem_singleton_self 0, .null, rfl, hvalue⟩
  · cases herror

theorem failsByFormulas_expression : Validator.expression.FailsByFormulas := by
  intro values args scope s error hlength herror hstatic
  obtain ⟨v, rfl⟩ := List.length_eq_one_iff.mp hlength
  rcases args with _ | ⟨formula, _ | ⟨_, _⟩⟩
  · cases herror
  · simp only [Validator.expression, List.cons_append, List.nil_append, Run.exec_ofExcept]
      at herror
    cases hover : formulaOver formula (scope.put "value" v) with
    | ok w =>
        rw [hover] at herror
        cases herror
    | error f =>
        rw [hover] at herror
        cases herror
        obtain ⟨rfl, hvalue⟩ := formulaOver_eq_error hover hstatic
        exact ⟨0, List.mem_singleton_self 0, v, rfl, hvalue⟩
  · cases herror

theorem failsByFormulas_transform : Processor.transform.FailsByFormulas := by
  intro values args scope s error hlength herror hstatic
  obtain ⟨v, rfl⟩ := List.length_eq_one_iff.mp hlength
  rcases args with _ | ⟨formula, _ | ⟨_, _⟩⟩
  · cases herror
  · simp only [Processor.transform, List.cons_append, List.nil_append, Run.exec_ofExcept]
      at herror
    obtain ⟨rfl, hvalue⟩ := formulaOver_eq_error herror hstatic
    exact ⟨0, List.mem_singleton_self 0, v, rfl, hvalue⟩
  · cases herror

theorem get?_eq_none_of_view {m : Modifier} {scope : Record} {v : Value} {name : String}
    (h : (m.view scope v).get? name = none) :
    scope.get? name = none ∧ (m.kind ≠ .activator → name ≠ valueName) := by
  unfold view at h
  split at h
  · rename_i hkind
    exact ⟨h, fun hne => absurd hkind hne⟩
  · rw [Record.get?_put] at h
    split at h
    · cases h
    · rename_i hne
      exact ⟨h, fun _ => Ne.symm hne⟩

theorem failsByFormulas_of_ne {m : Modifier}
    (h : ∀ args scope s error, (exec (m.apply args scope) s).1 ≠ .error (.formula error)) :
    m.FailsByFormulas :=
  fun _ _ _ _ _ _ herror _ => absurd herror (h _ _ _ _)

end Modifier

theorem Run.ofFault_ne_formula {α : Type} (r : Except Fault α) (s : Session)
    (error : FormulaError) : (exec (Run.ofFault r) s).1 ≠ .error (.formula error) := by
  rw [Run.exec_ofFault]
  intro h
  cases r <;> cases h

theorem ModifierTable.failsByFormulas_builtin : ∀ m ∈ builtin, m.FailsByFormulas := by
  have hvalidator : ∀ name check, (Modifier.Validator.of name check).FailsByFormulas :=
    fun _ _ => Modifier.failsByFormulas_of_ne fun _ _ => Run.ofFault_ne_formula _
  have hprocessor : ∀ name change, (Modifier.Processor.of name change).FailsByFormulas :=
    fun _ _ => Modifier.failsByFormulas_of_ne fun _ _ => Run.ofFault_ne_formula _
  have hactivator : ∀ m ∈ Modifier.Activator.builtin, m.FailsByFormulas := by
    intro m hm
    simp only [Modifier.Activator.builtin, List.mem_cons, List.not_mem_nil, or_false] at hm
    rcases hm with rfl | rfl | rfl | rfl | rfl | rfl
    case inr.inl => exact Modifier.failsByFormulas_formula
    all_goals
      refine Modifier.failsByFormulas_of_ne fun args scope s error h => ?_
      rcases args with _ | ⟨_, _ | ⟨_, _⟩⟩ <;> cases h
  simp only [builtin, Modifier.Validator.builtin, Modifier.Processor.builtin,
    List.forall_mem_append, List.forall_mem_cons, hvalidator, hprocessor,
    Modifier.failsByFormulas_expression, Modifier.failsByFormulas_transform, true_and]
  simpa using hactivator

/-! ### The expressions of tokens -/

namespace Token

variable {table : ModifierTable} {e : Entity} {target : String} {position : Nat} {u : ModifierUse}
  {t : Token}

theorem problem?_of_readBy {entity text : String} {names : List String}
    (h : readBy entity u target text = .ok names) : Expression.problem? text = none := by
  unfold readBy at h
  split at h
  · cases h
  · cases h
  · assumption

theorem checked_of_ofUse (h : ofUse table e target position u = .ok t) {text : String}
    (htext : text ∈ t.call.texts) : Expression.problem? text = none ∧
      ∀ name ∈ formulaReads text, name ∈ t.references ∨ name = t.target ∨ IsWord name := by
  obtain ⟨m, texts, read, _, _, htexts, hread, _, rfl⟩ := ofUse_ok h
  obtain ⟨hplaces, hcondition⟩ := mem_expressions htexts
  have hmem : text ∈ texts := by
    rcases List.mem_append.mp htext with hargs | hcond
    · obtain ⟨place, hplace, hfound⟩ := List.mem_filterMap.mp hargs
      split at hfound
      · rename_i text' harg
        cases hfound
        exact hplaces place hplace _ harg
      · cases hfound
    · exact hcondition text (Option.mem_toList.mp hcond)
  obtain ⟨names, hnames, hof⟩ := exists_of_mem_forall₂ (forall₂_of_mapM hread).flip hmem
  refine ⟨problem?_of_readBy hof, fun name hname => ?_⟩
  rcases mem_of_readBy hof hname with hmem' | hrest
  · refine .inl ?_
    rw [mem_sortedNames]
    exact List.mem_append_right _ (List.mem_flatten.mpr ⟨names, hnames, hmem'⟩)
  · exact .inr hrest

end Token

namespace Entity

variable {table : ModifierTable} {merging : Bool} {e : Entity} {r : Routine}

theorem exists_view_of_fails {t : Token} {f : String} {position : Nat} {use : ModifierUse}
    (hof : Token.ofUse ModifierTable.builtin e f position use = .ok t) {scope : Record}
    {values : List Value} (hvalues : values.length = t.call.modifier.kind.given) {u : Session}
    {error : FormulaError} (hfails : t.call.Fails scope values u error)
    (hstatic : error.obstacle.IsStatic) : error.formula ∈ t.call.texts ∧
      ∃ v, evaluateFormula error.formula (t.call.modifier.view scope v) = .error error := by
  have hofUse := Token.isOfUse_of_ofUse hof
  cases hfails with
  | condition text htext hcondition =>
      have hvalue : evaluateFormula text scope = .error error := by
        unfold conditionHolds at hcondition
        cases hvalue : evaluateFormula text scope with
        | ok v =>
            rw [hvalue] at hcondition
            cases hcondition
        | error error' =>
            rw [hvalue] at hcondition
            cases hcondition
            rfl
      obtain rfl := Modifier.formula_of_evaluateFormula hvalue
      have hkind : t.kind = .activator := by
        by_contra hne
        rw [Token.condition_of_ofUse hof hne] at htext
        cases htext
      refine ⟨List.mem_append_right _ (Option.mem_toList.mpr htext), .null, ?_⟩
      rwa [Modifier.view, if_pos (hofUse.kind_eq ▸ hkind)]
  | modifier hmodifier =>
      obtain ⟨place, hplace, v, harg, hvalue⟩ := ModifierTable.failsByFormulas_builtin _
        hofUse.registered values _ scope u error hvalues hmodifier hstatic
      obtain ⟨text, htext⟩ := hofUse.literal place hplace
      rw [Call.getElem?_argsIn htext] at harg
      cases harg
      refine ⟨List.mem_append_left _ (List.mem_filterMap.mpr ⟨place, hplace, ?_⟩), v, hvalue⟩
      rw [htext]

/-- Whatever expression of a compiled routine fails for what lies in itself inverts a value, or
belongs to an activator that names its own field or its own value. -/
theorem inverts_or_self_of_fails (h : e.compile ModifierTable.builtin merging = .ok r)
    {s t : Session} {o : Operation} (hstarts : r.Starts e s o t) {c : Call} {scope : Record}
    {values : List Value} {u : Session} (hreaches : o.Reaches e.name t c scope values u)
    {error : FormulaError} (hfails : c.Fails scope values u error)
    (hstatic : error.obstacle.IsStatic) :
    error.formula ∈ c.texts ∧
      ((error.obstacle = .unaryOperator "Invert" ∧ Inverts error.formula) ∨
        (o.kind = .activator ∧ ∃ id ∈ formulaReads error.formula,
          error.obstacle = .unknownName id ∧ (id = valueName ∨ id = o.target) ∧
            scope.get? id = none)) := by
  have hdraws := draws_of_compile (fun m hm => ModifierTable.draws_builtin hm) h
  obtain ⟨hreferences, htarget⟩ :=
    Routine.has_scope_of_starts hdraws (holds_of_compile h) hstarts
  obtain ⟨_, g, _, _, _, _, hgroups, _, _, _, hoperations, _⟩ := hstarts
  obtain ⟨ts, hts, tok, htok, rfl, hmakes⟩ := exists_token_of_compile h
    (g := g) (by simp [hgroups]) (by simp [hoperations]) hreaches.mem_calls
  obtain ⟨f, _, use, _, position, hof⟩ := exists_use_of_mem_tokens hts htok
  have hkind : tok.call.modifier.kind = o.kind := by
    rw [← (Token.isOfUse_of_ofUse hof).kind_eq, hmakes.kind_eq]
  obtain ⟨htexts, v, hvalue⟩ :=
    exists_view_of_fails hof (hkind ▸ hreaches.length_eq) hfails hstatic
  obtain ⟨hproblem, hreads⟩ := Token.checked_of_ofUse hof htexts
  refine ⟨htexts, ?_⟩
  rcases static_of_problem?_eq_none hproblem hvalue hstatic with hinvert | ⟨id, hid, hobstacle,
    hreserved, hview⟩
  · exact .inl hinvert
  · obtain ⟨habsent, hnotValue⟩ := Modifier.get?_eq_none_of_view hview
    -- the guard has seen to all names but those of the field and of its value
    have hlacks : ¬t.context.scope.has id = true := by
      intro hhas
      have hscope := hreaches.has_scope hhas
      rw [Record.get?_eq_none_iff, hscope] at habsent
      cases habsent
    have hself : id = valueName ∨ id = o.target := by
      rcases hreads id hid with hreference | rfl | hword | rfl
      · exact absurd (hreferences id (hmakes.reads id hreference)) hlacks
      · exact .inr hmakes.target_eq.symm
      · rw [hreserved] at hword
        cases hword
      · exact .inl rfl
    refine .inr ⟨?_, id, hid, hobstacle, hself, habsent⟩
    by_contra hne
    rcases hself with rfl | rfl
    · exact hnotValue (hkind ▸ hne) rfl
    · exact hlacks (htarget hne)

def switch : Entity where
  name := "switch"
  fields := [.transformed "mask" "~value"]

def switchOperation : Operation where
  kind := .processor
  target := "mask"
  references := []
  calls := [(Token.transform "mask" "~value").call]
  tokenIds := ["mask~0:transform"]

theorem tokens_switch :
    switch.tokens ModifierTable.builtin = .ok [.transform "mask" "~value"] :=
  tokens_of_transformed [("mask", "~value")] rfl (by decide +kernel)

def maskSession : Session :=
  { settings := {}, sources := Sources.still,
    context := { latest := [("mask", .int 5)], mode := some .create } }

theorem evaluateFormula_inversion : evaluateFormula "~value" [("mask", .int 5), ("value", .int 5)] =
    .error ⟨"~value", .unaryOperator "Invert"⟩ := by
  have herror : (match evaluateFormula "~value" [("mask", .int 5), ("value", .int 5)] with
      | .error error => decide (error = ⟨"~value", .unaryOperator "Invert"⟩)
      | .ok _ => false) = true := by
    decide +kernel
  split at herror
  · rename_i error hvalue
    rw [hvalue, of_decide_eq_true herror]
  · cases herror

theorem switch_inverts : ∃ r, switch.compile ModifierTable.builtin true = .ok r ∧
    r.Starts switch maskSession switchOperation maskSession ∧
    ∃ c scope values, switchOperation.Reaches "switch" maskSession c scope values maskSession ∧
      c.Fails scope values maskSession ⟨"~value", .unaryOperator "Invert"⟩ ∧
      (Obstacle.unaryOperator "Invert").IsStatic ∧ Inverts "~value" := by
  obtain ⟨r, hr, hgroups⟩ : ∃ r, switch.compile ModifierTable.builtin true = .ok r ∧
      r.groups = [⟨"mask", [], true, [switchOperation]⟩] := by
    unfold compile
    rw [tokens_switch]
    exact ⟨_, rfl, rfl⟩
  have hstarts : r.Starts switch maskSession switchOperation maskSession :=
    ⟨[], _, [], [], [], maskSession, hgroups, rfl, rfl, rfl, rfl, rfl⟩
  have hreaches : switchOperation.Reaches "switch" maskSession
      (Token.transform "mask" "~value").call maskSession.context.scope [.int 5] maskSession :=
    .processor [] [] (.int 5) maskSession rfl rfl rfl
  have hfails : (Token.transform "mask" "~value").call.Fails maskSession.context.scope [.int 5]
      maskSession ⟨"~value", .unaryOperator "Invert"⟩ := by
    refine .modifier ?_
    simp only [Token.transform, Call.argsIn, List.map_cons, List.map_nil, List.cons_append,
      List.nil_append, Modifier.Processor.transform, Run.exec_ofExcept, Modifier.formulaOver]
    rw [show maskSession.context.scope.put "value" (.int 5) =
      [("mask", .int 5), ("value", .int 5)] from rfl, evaluateFormula_inversion]
    rfl
  have hstatic : (Obstacle.unaryOperator "Invert").IsStatic := trivial
  obtain ⟨_, ⟨_, hinverts⟩ | ⟨hkind, _⟩⟩ :=
    inverts_or_self_of_fails hr hstarts hreaches hfails hstatic
  · exact ⟨r, hr, hstarts, _, _, _, hreaches, hfails, hstatic, hinverts⟩
  · cases hkind

end Entity

end FieldPipeline
