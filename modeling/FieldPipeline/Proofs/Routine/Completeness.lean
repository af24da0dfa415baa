import FieldPipeline.Proofs.Routine.Conservation
import FieldPipeline.Proofs.Routine.Token

/-!
The references of a token tell all that its call depends on.  A field that makes a difference to
the call is among them, and then waited for, unless the field has the name of a word of the
language: such a name is looked up in the record first, but it is never taken for a reference.
-/

namespace FieldPipeline

open Expression

/-- Whether a call tells two records apart, by one of its expressions, by its condition, or by
what it makes of the same values. -/
inductive Call.Distinguishes (entity target : String) (scope scope' : Record) (c : Call) : Prop
  | formula (place : Nat) (text : String) (v : Value) (hplace : place ∈ c.modifier.expressionArgs)
      (htext : c.args[place]? = some (.text text))
      (h : evaluateFormula text (c.modifier.view scope v) ≠
        evaluateFormula text (c.modifier.view scope' v))
  | condition (text : String) (htext : c.condition = some text)
      (h : evaluateFormula text scope ≠ evaluateFormula text scope')
  | invocation (values : List Value) (hvalues : values.length = c.modifier.kind.given)
      (h : c.invoke entity target scope values ≠ c.invoke entity target scope' values)

/-- Whether a routine lets a token wait for a field: all work on the field is done before, and
whatever holds the token requires the field. -/
structure Routine.Awaits (r : Routine) (ts : List Token) (t : Token) (field : String) : Prop where
  before : ∀ t' ∈ ts, t'.target = field → r.order.idxOf t'.id < r.order.idxOf t.id
  required : ∀ g ∈ r.groups, ∀ o ∈ g.operations, t.id ∈ o.tokenIds → field ∈ g.requiredFields

namespace Call

variable {c : Call} {scope scope' : Record}

theorem mem_formulaNames {place : Nat} {text name : String}
    (hplace : place ∈ c.modifier.expressionArgs) (htext : c.args[place]? = some (.text text))
    (hname : name ∈ c.modifier.namesIn text) : name ∈ c.formulaNames := by
  refine List.mem_flatMap.mpr ⟨place, hplace, ?_⟩
  rw [htext]
  exact hname

theorem not_agreeOn_of_distinguishes (hmodifier : c.modifier.ReadsFormulas)
    (hliteral : c.Literal) {entity target : String}
    (h : c.Distinguishes entity target scope scope') : ¬AgreeOn c.reads scope scope' := by
  intro hagree
  cases h with
  | formula place text v hplace htext h =>
      refine h (evaluateFormula_congr (Modifier.agreeOn_view (fun name hname => ?_) v))
      exact hagree.right.left name (mem_formulaNames hplace htext hname)
  | condition text htext h =>
      have hnames := hagree.right.right
      rw [htext] at hnames
      exact h (evaluateFormula_congr hnames)
  | invocation values hvalues h =>
      exact h (invoke_congr hmodifier hliteral hagree entity target values hvalues)

theorem mem_reads_of_distinguishes (hmodifier : c.modifier.ReadsFormulas) (hliteral : c.Literal)
    {entity target field : String}
    (hagree : ∀ name, name ≠ field → scope.get? name = scope'.get? name)
    (h : c.Distinguishes entity target scope scope') : field ∈ c.reads := by
  by_contra hfield
  exact not_agreeOn_of_distinguishes hmodifier hliteral h fun name hname =>
    hagree name fun hname' => hfield (hname' ▸ hname)

end Call

namespace Token

variable {table : ModifierTable} {e : Entity} {target : String} {position : Nat} {u : ModifierUse}
  {t : Token}

theorem condition_of_ofUse (h : ofUse table e target position u = .ok t)
    (hkind : t.kind ≠ .activator) : t.call.condition = none := by
  obtain ⟨m, texts, read, _, _, htexts, _, _, rfl⟩ := ofUse_ok h
  dsimp only at hkind ⊢
  unfold expressions at htexts
  split at htexts
  · cases htexts
  · split at htexts
    · assumption
    · rw [if_neg hkind] at htexts
      cases htexts

theorem mem_references_of_mem_refersTo (h : ofUse table e target position u = .ok t)
    {name : String} (hname : name ∈ t.call.refersTo) : name ∈ t.references := by
  obtain ⟨m, texts, read, _, _, _, _, _, rfl⟩ := ofUse_ok h
  rw [mem_sortedNames]
  exact List.mem_append_left _ (List.mem_append_left _ hname)

/-- What a token that is no activator reads under the name of its own value is a reference: in
its expressions the name stands for the value itself. -/
theorem valueName_mem_references (h : ofUse table e target position u = .ok t)
    (hkind : t.kind ≠ .activator) (hname : valueName ∈ t.call.reads) :
    valueName ∈ t.references := by
  have hmodifier : t.call.modifier.kind ≠ .activator :=
    (isOfUse_of_ofUse h).kind_eq ▸ hkind
  unfold Call.reads at hname
  rw [condition_of_ofUse h hkind] at hname
  simp only [Option.map_none, Option.getD_none, List.append_nil, List.mem_append] at hname
  rcases hname with hrefers | hformulas
  · exact mem_references_of_mem_refersTo h hrefers
  · obtain ⟨place, _, hmem⟩ := List.mem_flatMap.mp hformulas
    split at hmem
    · have hfilter := (List.mem_filter.mp hmem).2
      simp [hmodifier] at hfilter
    · cases hmem

theorem passedOver_of_reads (h : ofUse table e target position u = .ok t) {name : String}
    (hname : name ∈ t.call.reads) : name ∈ t.references ∨ name = t.target ∨
      isReservedName name = true ∨ (name = valueName ∧ t.kind = .activator) := by
  rcases reads_of_ofUse h hname with hreference | htarget | hreserved | rfl
  · exact .inl hreference
  · exact .inr (.inl htarget)
  · exact .inr (.inr (.inl hreserved))
  · by_cases hkind : t.kind = .activator
    · exact .inr (.inr (.inr ⟨rfl, hkind⟩))
    · exact .inl (valueName_mem_references h hkind hname)

end Token

namespace Entity

variable {table : ModifierTable} {merging : Bool} {e : Entity} {r : Routine}

theorem awaits_of_mem_references (htable : ∀ m ∈ table, '~' ∉ m.name.toList)
    (hfields : e.fieldNames.Nodup) (h : e.compile table merging = .ok r) {ts : List Token}
    (hts : e.tokens table = .ok ts) {t : Token} (ht : t ∈ ts) {field : String}
    (hfield : field ∈ t.references) : r.Awaits ts t field := by
  obtain ⟨sorted, hmem, hordered, rfl⟩ := ordered_of_tokens htable hfields h hts
  constructor
  · rintro t' ht' rfl
    exact hordered.before t' ((hmem t').mpr ht') t ((hmem t).mpr ht) (.inr hfield)
  · intro g hg o ho hid
    obtain ⟨chunk, hchunk, hof⟩ := exists_of_mem_forall₂
      (Operation.forall₂_isOf_ofOrder merging sorted) (Group.mem_of_mem_ofOrder hg ho)
    rw [hof.tokenIds_eq] at hid
    obtain ⟨t', ht', hid⟩ := List.mem_map.mp hid
    have hsame : t' = t := List.inj_on_of_nodup_map hordered.nodup
      (mem_of_mem_splitBy hchunk ht') ((hmem t).mpr ht) hid
    rw [← (Group.holds_of_mem_ofOrder hg ho).references_eq, hof.mem_references_iff]
    exact ⟨t', ht', hsame ▸ hfield⟩

/-- A field that makes a difference to a token of another field is among its references and waited
for, unless the name of the field is a word of the language. -/
theorem awaits_or_word_of_distinguishes (hfields : e.fieldNames.Nodup)
    (h : e.compile ModifierTable.builtin merging = .ok r) {ts : List Token}
    (hts : e.tokens ModifierTable.builtin = .ok ts) {t : Token} (ht : t ∈ ts) {field : String}
    (hfield : field ≠ t.target) {scope scope' : Record}
    (hagree : ∀ name, name ≠ field → scope.get? name = scope'.get? name)
    (hdiffer : t.call.Distinguishes e.name t.target scope scope') :
    (field ∈ t.references ∧ r.Awaits ts t field) ∨
      (field ∈ t.call.reads ∧
        (isReservedName field = true ∨ (field = valueName ∧ t.kind = .activator))) := by
  obtain ⟨f, _, u, _, position, hof⟩ := exists_use_of_mem_tokens hts ht
  have hofUse := Token.isOfUse_of_ofUse hof
  have hreads : field ∈ t.call.reads := Call.mem_reads_of_distinguishes
    (ModifierTable.readsFormulas_builtin _ hofUse.registered) hofUse.literal hagree hdiffer
  rcases Token.passedOver_of_reads hof hreads with hreference | htarget | hword
  · exact .inl ⟨hreference, awaits_of_mem_references ModifierTable.notMem_tilde_builtin hfields h
      hts ht hreference⟩
  · exact absurd htarget hfield
  · exact .inr ⟨hreads, hword⟩

end Entity

/-! ### Fields that formulas replace -/

def ModifierUse.transform (formula : String) : ModifierUse where
  kind := "Processor"
  name := "transform"
  args := [.text formula]

def Token.transform (target formula : String) : Token where
  id := idOf target 0 "transform"
  kind := .processor
  target := target
  references := []
  chainable := true
  call := { modifier := Modifier.Processor.transform, args := [.text formula] }
  position := 0

theorem Token.ofUse_transform (e : Entity) (target : String) {formula : String}
    (hproblem : problem? formula = none) (hreferences : Expression.references formula = .ok []) :
    ofUse ModifierTable.builtin e target 0 (.transform formula) =
      .ok (.transform target formula) := by
  have hkind : ModifierKind.named? "Processor" = some .processor := by decide +kernel
  have hmodifier : modifierFor ModifierTable.builtin (.transform formula) target =
      .ok Modifier.Processor.transform := by
    unfold modifierFor ModifierUse.transform
    rw [hkind]
    rfl
  have hread : [formula].mapM (readBy e.name (.transform formula) target) = .ok [[]] := by
    rw [List.mapM_cons, readBy_eq_ok hproblem hreferences]
    rfl
  exact ofUse_eq_ok hmodifier rfl rfl hread rfl

def Field.transformed (name formula : String) : Field where
  name := name
  type := "integer"
  modifiers := [.transform formula]

namespace Entity

theorem tokens_of_transformed {e : Entity} (formulas : List (String × String))
    (hfields : e.fields = formulas.map fun f => Field.transformed f.1 f.2)
    (hformulas : ∀ f ∈ formulas,
      problem? f.2 = none ∧ Expression.references f.2 = .ok []) :
    e.tokens ModifierTable.builtin = .ok (formulas.map fun f => Token.transform f.1 f.2) := by
  have hrows : (formulas.map fun f => Field.transformed f.1 f.2).mapM
      (fun f => Token.ofUses ModifierTable.builtin e f.name 0 f.modifiers) =
        .ok (formulas.map fun f => [Token.transform f.1 f.2]) := by
    clear hfields
    induction formulas with
    | nil => rfl
    | cons f formulas ih =>
        rw [List.forall_mem_cons] at hformulas
        have hof := Token.ofUse_transform e f.1 hformulas.1.1 hformulas.1.2
        rw [List.map_cons, List.mapM_cons, ih hformulas.2]
        simp only [Field.transformed, Token.ofUses, hof]
        rfl
  unfold tokens
  rw [hfields, hrows]
  change Except.ok (formulas.map fun f => [Token.transform f.1 f.2]).flatten = _
  rw [← List.flatMap_def, ← List.map_eq_flatMap]

/-- What is used, counted in units of a limit that has the name of a function. -/
def quota : Entity where
  name := "quota"
  fields := [.transformed "used" "value * max", .transformed "max" "value + 1"]

def quotaTokens : List Token := [
  .transform "used" "value * max", .transform "max" "value + 1"]

theorem tokens_quota : quota.tokens ModifierTable.builtin = .ok quotaTokens :=
  tokens_of_transformed [("used", "value * max"), ("max", "value + 1")] rfl (by decide +kernel)

theorem quota_distinguishes : quota.fieldNames.Nodup ∧
    ∃ r, quota.compile ModifierTable.builtin true = .ok r ∧
      r.order = ["used~0:transform", "max~0:transform"] ∧
      ∃ t ∈ quotaTokens, "max" ≠ t.target ∧ t.references = [] ∧
        t.call.Distinguishes "quota" t.target [("max", .int 1)] [("max", .int 2)] ∧
        ("max" ∈ t.references ∧ r.Awaits quotaTokens t "max" ∨
          "max" ∈ t.call.reads ∧
            (isReservedName "max" = true ∨ "max" = valueName ∧ t.kind = .activator)) := by
  have hfields : quota.fieldNames.Nodup := by decide
  obtain ⟨r, hr, horder⟩ : ∃ r, quota.compile ModifierTable.builtin true = .ok r ∧
      r.order = ["used~0:transform", "max~0:transform"] := by
    unfold compile
    rw [tokens_quota]
    exact ⟨_, rfl, rfl⟩
  have hagree : ∀ name, name ≠ "max" → Record.get? name [("max", .int 1)] =
      Record.get? name [("max", .int 2)] := by
    intro name hname
    simp [Record.get?, hname.symm]
  have hdiffer : (Token.transform "used" "value * max").call.Distinguishes "quota" "used"
      [("max", .int 1)] [("max", .int 2)] := by
    refine .formula 0 "value * max" (.int 3) (List.mem_singleton_self 0) rfl fun h => ?_
    have hplain := congrArg (fun result => result.toOption.map Value.plain) h
    revert hplain
    decide +kernel
  have hmem : .transform "used" "value * max" ∈ quotaTokens := List.mem_cons_self
  have hother : "max" ≠ (Token.transform "used" "value * max").target := by decide
  exact ⟨hfields, r, hr, horder, _, hmem, hother, rfl, hdiffer,
    awaits_or_word_of_distinguishes hfields hr tokens_quota hmem hother hagree hdiffer⟩

end Entity

end FieldPipeline
