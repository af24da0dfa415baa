import FieldPipeline.Field.Generation
import FieldPipeline.Modifier.Builtin
import FieldPipeline.Proofs.Session

/-!
The modifiers and generators that need not be registered only draw on the sources.
-/

namespace FieldPipeline

open Run

namespace Modifier

namespace Validator

theorem draws_of (name : String) (check : Check) (args : List Value) (scope : Record) :
    Draws ((of name check).apply args scope) :=
  .ofFault _

theorem draws_expression (args : List Value) (scope : Record) :
    Draws (expression.apply args scope) := by
  unfold expression
  dsimp only
  split
  · exact .ofExcept _
  · exact .fail _

theorem draws_builtin : ∀ m ∈ builtin, ∀ args scope, Draws (m.apply args scope) := by
  simp only [builtin, List.forall_mem_cons, draws_of, draws_expression, implies_true, true_and]
  simp

end Validator

namespace Processor

theorem draws_of (name : String) (change : Change) (args : List Value) (scope : Record) :
    Draws ((of name change).apply args scope) :=
  .ofFault _

theorem draws_transform (args : List Value) (scope : Record) :
    Draws (transform.apply args scope) := by
  unfold transform
  dsimp only
  split
  · exact .ofExcept _
  · exact .fail _

theorem draws_builtin : ∀ m ∈ builtin, ∀ args scope, Draws (m.apply args scope) := by
  simp only [builtin, List.forall_mem_cons, draws_of, draws_transform, implies_true, true_and]
  simp

end Processor

namespace Activator

theorem draws_argument (args : List Value) : Draws (argument args) := by
  unfold argument
  split
  · exact .pure _
  · exact .fail _

theorem draws_concat (args : List Value) : Draws (concat args) :=
  .pure _

theorem draws_now (args : List Value) : Draws (now args) := by
  unfold now
  split
  · exact .bind .now fun _ => .pure _
  · exact .fail _

theorem draws_uuid (args : List Value) : Draws (uuid args) := by
  unfold uuid
  split
  · exact .bind .identifier fun _ => .pure _
  · exact .fail _

theorem draws_formula (args : List Value) (scope : Record) : Draws (formula.apply args scope) := by
  unfold formula
  dsimp only
  split
  · exact .ofExcept _
  · exact .fail _

theorem draws_builtin : ∀ m ∈ builtin, ∀ args scope, Draws (m.apply args scope) := by
  have hof : ∀ (name : String) (derive : List Value → Run Value),
      (∀ args, Draws (derive args)) → ∀ args scope, Draws ((of name derive).apply args scope) :=
    fun _ _ hderive args _ => hderive args
  simp only [builtin, List.forall_mem_cons, hof _ _ draws_argument, hof _ _ draws_now,
    hof _ _ draws_uuid, hof _ _ draws_concat, draws_formula, implies_true, true_and]
  simp

end Activator

end Modifier

theorem ModifierTable.draws_builtin {m : Modifier} (hm : m ∈ builtin) (args : List Value)
    (scope : Record) : Draws (m.apply args scope) := by
  rcases List.mem_append.mp hm with hm | hm
  · rcases List.mem_append.mp hm with hm | hm
    · exact Modifier.Validator.draws_builtin m hm args scope
    · exact Modifier.Processor.draws_builtin m hm args scope
  · exact Modifier.Activator.draws_builtin m hm args scope

/-- Whether the result of a modifier does not depend on the session. -/
def Modifier.Steady (m : Modifier) : Prop :=
  ∀ args scope s s', (exec (m.apply args scope) s).1 = (exec (m.apply args scope) s').1

theorem Modifier.Validator.steady_builtin : ∀ m ∈ builtin, m.Steady := by
  have hof : ∀ name check, (of name check).Steady := by
    intro name check args scope s s'
    unfold of
    rw [exec_ofFault, exec_ofFault]
  have hexpression : expression.Steady := by
    intro args scope s s'
    unfold expression
    dsimp only
    split
    · rw [exec_ofExcept, exec_ofExcept]
    · rfl
  simp only [builtin, List.forall_mem_cons, hof, hexpression, true_and]
  simp

theorem Modifier.Processor.steady_builtin : ∀ m ∈ builtin, m.Steady := by
  have hof : ∀ name change, (of name change).Steady := by
    intro name change args scope s s'
    unfold of
    rw [exec_ofFault, exec_ofFault]
  have htransform : transform.Steady := by
    intro args scope s s'
    unfold transform
    dsimp only
    split
    · rw [exec_ofExcept, exec_ofExcept]
    · rfl
  simp only [builtin, List.forall_mem_cons, hof, htransform, true_and]
  simp

theorem ModifierTable.steady_builtin {m : Modifier} (hm : m ∈ builtin)
    (hkind : m.kind ≠ .activator) : m.Steady := by
  rcases List.mem_append.mp hm with hm | hm
  · rcases List.mem_append.mp hm with hm | hm
    · exact Modifier.Validator.steady_builtin m hm
    · exact Modifier.Processor.steady_builtin m hm
  · have hall : ∀ m ∈ Modifier.Activator.builtin, m.kind = .activator := by decide
    exact absurd (hall m hm) hkind

namespace Generator

theorem draws_requireText (f : Field) (generator : String) : Draws (requireText f generator) := by
  unfold requireText
  split
  · exact .pure _
  · exact .fail _

theorem draws_builtin : ∀ g ∈ builtin, ∀ f locale, Draws (g.generate f locale) := by
  have huuid : ∀ f locale, Draws (uuid.generate f locale) := fun f _ =>
    .bind (draws_requireText f "uuid") fun _ => .bind .identifier fun _ => .pure _
  have huniqid : ∀ f locale, Draws (uniqid.generate f locale) := fun f _ =>
    .bind (draws_requireText f "uniqid") fun _ => .bind .stamp fun _ => .pure _
  have htimestamp : ∀ f locale, Draws (timestamp.generate f locale) := fun f _ =>
    .bind .now fun _ => .pure _
  simp only [builtin, List.forall_mem_cons, huuid, huniqid, htimestamp, implies_true, true_and]
  simp

end Generator

namespace Field

theorem draws_randomChars (n : Nat) : Draws (randomChars n) := by
  induction n with
  | zero => exact .pure _
  | succ n ih => exact .bind (.place _) fun _ => .bind ih fun _ => .pure _

theorem draws_randomText (f : Field) : Draws f.randomText := by
  refine .bind .settings fun settings => .bind (.ofFault _) fun length => ?_
  split
  · exact .fail _
  · exact .bind (draws_randomChars _) fun _ => .pure _

theorem draws_generateOf (f : Field) (type : BaseType) : Draws (f.generateOf type) := by
  cases type with
  | integer => exact .bind (.wholeNumber _ _) fun _ => .pure _
  | number => exact .read fun _ sources _ => Value.float sources.fraction
  | text => exact draws_randomText f
  | boolean => exact .pure _
  | datetime => exact .bind .now fun _ => .pure _
  | enum =>
      unfold generateOf
      dsimp only
      split
      · exact .pure _
      · exact .fail _
  | array => exact .pure _
  | object => exact .pure _

theorem draws_generate {generators : List Generator}
    (hdraws : ∀ g ∈ generators, ∀ f locale, Draws (g.generate f locale)) (f : Field)
    (locale : Value) : Draws (f.generate generators locale) := by
  unfold generate
  split
  · split
    · rename_i g hfind
      exact hdraws g (List.mem_of_find?_eq_some hfind) f locale
    · exact .fail _
  · split
    · exact draws_generateOf f _
    · exact .fail _

end Field

end FieldPipeline
