import FieldPipeline.Modifier.Builtin
import FieldPipeline.Proofs.Sequence
import FieldPipeline.Proofs.Session

/-!
How the built-in modifiers fail.  A failure of a formula, of a type or of a value is told as such;
what is not are a pattern that cannot be read, a bound that is infinite, and a rounding that has
no result.
-/

namespace FieldPipeline

open Run

def Failure.IsTold (f : Failure) : Prop :=
  f.kind = .formula ∨ f.kind = .wrongType ∨ f.kind = .badValue

theorem Fault.isTold_wrongType : (Failure.fault .wrongType).IsTold :=
  .inr (.inl rfl)

theorem Fault.isTold_badValue : (Failure.fault .badValue).IsTold :=
  .inr (.inr rfl)

namespace Value

/-- Whether a value is a float without a size that is a number all the same. -/
def IsInfinite : Value → Prop
  | .float x => Number.scaled? x = none ∧ x.isNaN = false
  | _ => False

theorem isNull_eq_false {v : Value} (h : v ≠ .null) : v.isNull = false := by
  cases v <;> first | rfl | exact absurd rfl h

mutual

theorem relate_error {r : Relation} {v w : Value} {f : Fault} (h : relate r v w = .error f) :
    f = .wrongType := by
  unfold relate at h
  split at h
  · cases h
  · cases h
  · exact relateAll_error h
  · exact relateAll_error h
  · cases h
  · split at h
    · cases h
    · exact (Except.error.inj h).symm
  · cases h
  · cases h
  · split at h
    · cases h
    · cases h
    · exact (Except.error.inj h).symm

theorem relateAll_error {r : Relation} {xs ys : List Value} {f : Fault}
    (h : relateAll r xs ys = .error f) : f = .wrongType := by
  unfold relateAll at h
  split at h
  · cases h
  · cases h
  · cases h
  · split at h
    · exact relateAll_error h
    · exact relate_error h

end

end Value

namespace Builtin

theorem wholeFloat_error {x : Float} {part : Number.Scaled → Int} {f : Fault}
    (h : wholeFloat x part = .error f) :
    f = .badValue ∨ f = .tooLarge ∧ (Value.float x).IsInfinite := by
  unfold wholeFloat at h
  split at h
  · cases h
  · rename_i hscaled
    cases hnan : x.isNaN with
    | true =>
        rw [hnan] at h
        exact .inl (Except.error.inj h).symm
    | false =>
        rw [hnan] at h
        exact .inr ⟨(Except.error.inj h).symm, hscaled, hnan⟩

theorem readWhole_error {base : Nat} {s : String} {f : Fault} (h : readWhole base s = .error f) :
    f = .badValue := by
  unfold readWhole at h
  split at h
  · cases h
  · exact (Except.error.inj h).symm

theorem toInt_error {v : Value} {f : Fault} (h : toInt v = .error f) :
    f = .wrongType ∨ f = .badValue ∨ f = .tooLarge ∧ v.IsInfinite := by
  unfold toInt at h
  split at h
  · rename_i x
    cases hwhole : wholeFloat x Number.Scaled.truncate with
    | ok n =>
        rw [hwhole] at h
        cases h
    | error fault =>
        rw [hwhole] at h
        cases h
        exact .inr (wholeFloat_error hwhole)
  · exact .inr (.inl (readWhole_error h))
  · exact .inr (.inl (readWhole_error h))
  · split at h
    · cases h
    · exact .inl (Except.error.inj h).symm

theorem whole_error {v : Value} {f : Fault} (h : whole v = .error f) :
    f = .wrongType ∨ f = .badValue ∨ f = .tooLarge ∧ v.IsInfinite := by
  unfold whole at h
  rcases bind_eq_error.mp h with hint | ⟨w, _, h⟩
  · exact toInt_error hint
  · split at h
    · cases h
    · exact .inl (Except.error.inj h).symm

end Builtin

open Number

theorem Number.Decimal.checkPlace_error {place : Int} {f : Fault}
    (h : checkPlace place = .error f) :
    largestExponent < place.natAbs ∧ (f = .noDecimal ∨ f = .decimalTooLarge) := by
  unfold checkPlace at h
  split at h
  · exact ⟨by omega, .inl (Except.error.inj h).symm⟩
  · split at h
    · exact ⟨by omega, .inr (Except.error.inj h).symm⟩
    · cases h

namespace Modifier

/-- Whether a modifier with a name has, on some arguments, a fault that is not told. -/
inductive Escapes : String → List Value → Fault → Prop
  | pattern {v : Value} {text : String} {fault : Fault} (hv : v.isNull = false)
      (hread : Pattern.read text = .error fault) : Escapes "matches" [v, .text text] fault
  | infinite {name : String} {v bound : Value}
      (hname : name ∈ ["min_length", "max_length", "truncate", "round"]) (hv : v.isNull = false)
      (hbound : bound.IsInfinite) : Escapes name [v, bound] .tooLarge
  | place {v digits : Value} {n : Int} {fault : Fault} (hv : v.isNull = false)
      (hdigits : Builtin.whole digits = .ok n) (hplace : Decimal.largestExponent < n.natAbs)
      (hfault : fault = .noDecimal ∨ fault = .decimalTooLarge) :
      Escapes "round" [v, digits] fault
  | decimal {v : Value} {rest : List Value} {n : Int} (hv : v.isNull = false)
      (hdigits : Builtin.whole (rest.headD (.int 0)) = .ok n)
      (hnone : (Decimal.read? v.plain).bind (·.roundTo? (-n)) = none) :
      Escapes "round" (v :: rest) .noDecimal

def Explains {α : Type} (name : String) (apply : List Value → Except Fault α) : Prop :=
  ∀ args fault, apply args = .error fault →
    (Failure.fault fault).IsTold ∨ Escapes name args fault

variable {name : String} {args : List Value} {v bound : Value} {fault : Fault}

theorem told_of_wrongType {α : Type} (h : Except.error (α := α) .wrongType = .error fault) :
    (Failure.fault fault).IsTold ∨ Escapes name args fault :=
  .inl (Except.error.inj h ▸ Fault.isTold_wrongType)

theorem told_or_escapes_of_bound
    (hname : name ∈ ["min_length", "max_length", "truncate", "round"]) (hv : v.isNull = false)
    (h : Builtin.whole bound = .error fault) :
    (Failure.fault fault).IsTold ∨ Escapes name [v, bound] fault := by
  rcases Builtin.whole_error h with rfl | rfl | ⟨rfl, hinfinite⟩
  · exact .inl Fault.isTold_wrongType
  · exact .inl Fault.isTold_badValue
  · exact .inr (.infinite hname hv hinfinite)

namespace Validator

theorem lengthOf_error (h : lengthOf v = .error fault) : fault = .wrongType := by
  unfold lengthOf at h
  split at h
  · cases h
  · exact (Except.error.inj h).symm

theorem explains_notEmpty : Explains "not_empty" notEmpty := by
  intro args fault h
  unfold notEmpty at h
  split at h
  all_goals first | exact told_of_wrongType h | cases h

theorem told_or_escapes_of_lengths {holds : Int → Int → Bool}
    (hname : name ∈ ["min_length", "max_length", "truncate", "round"]) (hv : v.isNull = false)
    (h : (do let size ← lengthOf v; return holds size (← Builtin.whole bound)) = .error fault) :
    (Failure.fault fault).IsTold ∨ Escapes name [v, bound] fault := by
  rcases bind_eq_error.mp h with hsize | ⟨size, hsize, h⟩
  · exact .inl (lengthOf_error hsize ▸ Fault.isTold_wrongType)
  · rcases bind_eq_error.mp h with hbound | ⟨n, hbound, h⟩
    · exact told_or_escapes_of_bound hname hv hbound
    · cases h

theorem explains_minLength : Explains "min_length" minLength := by
  intro args fault h
  unfold minLength at h
  split at h
  · cases h
  · rename_i hv
    exact told_or_escapes_of_lengths (by simp) (Value.isNull_eq_false hv) h
  · exact told_of_wrongType h

theorem explains_maxLength : Explains "max_length" maxLength := by
  intro args fault h
  unfold maxLength at h
  split at h
  · cases h
  · rename_i hv
    exact told_or_escapes_of_lengths (by simp) (Value.isNull_eq_false hv) h
  · exact told_of_wrongType h

theorem explains_matchesPattern : Explains "matches" matchesPattern := by
  intro args fault h
  unfold matchesPattern at h
  split at h
  · cases h
  · rename_i v pattern hv
    rcases bind_eq_error.mp h with hread | ⟨p, hread, h⟩
    · exact .inr (.pattern (Value.isNull_eq_false hv) hread)
    · cases h
  · exact told_of_wrongType h

theorem explains_isEmail : Explains "is_email" isEmail := by
  intro args fault h
  unfold isEmail at h
  split at h
  all_goals first | exact told_of_wrongType h | cases h

theorem explains_oneOf : Explains "one_of" oneOf := by
  intro args fault h
  unfold oneOf at h
  split at h
  all_goals first | exact told_of_wrongType h | cases h

theorem explains_atLeast : Explains "min" atLeast := by
  intro args fault h
  unfold atLeast at h
  split at h
  · cases h
  · exact .inl (Value.relate_error h ▸ Fault.isTold_wrongType)
  · exact told_of_wrongType h

theorem explains_atMost : Explains "max" atMost := by
  intro args fault h
  unfold atMost at h
  split at h
  · cases h
  · exact .inl (Value.relate_error h ▸ Fault.isTold_wrongType)
  · exact told_of_wrongType h

theorem explains_equals : Explains "equals" equals := by
  intro args fault h
  unfold equals at h
  split at h
  all_goals first | exact told_of_wrongType h | cases h

end Validator

namespace Processor

theorem explains_onText (name : String) (change : String → String) :
    Explains name (onText change) := by
  intro args fault h
  unfold onText at h
  split at h
  all_goals first | exact told_of_wrongType h | cases h

theorem told_of_digest {algorithm salt : Value} (h : digest algorithm salt v = .error fault) :
    (Failure.fault fault).IsTold := by
  unfold digest at h
  split at h
  · cases h
  · split at h
    · cases h
    · exact Except.error.inj h ▸ Fault.isTold_badValue
  · exact Except.error.inj h ▸ Fault.isTold_wrongType

theorem explains_hash : Explains "hash" hash := by
  intro args fault h
  unfold hash at h
  split at h
  · exact .inl (told_of_digest h)
  · exact .inl (told_of_digest h)
  · exact .inl (told_of_digest h)
  · exact told_of_wrongType h

theorem explains_truncate : Explains "truncate" truncate := by
  intro args fault h
  unfold truncate at h
  split at h
  · cases h
  · rename_i v length hv
    rcases bind_eq_error.mp h with hlength | ⟨n, hlength, h⟩
    · exact told_or_escapes_of_bound (by simp) (Value.isNull_eq_false hv) hlength
    · split at h
      all_goals first | exact told_of_wrongType h | cases h
  · exact told_of_wrongType h

theorem told_of_rounded {digits : Int} {d : Decimal} (h : rounded digits d = .error fault) :
    (Failure.fault fault).IsTold := by
  unfold rounded at h
  split at h
  · split at h
    · cases h
    · exact Except.error.inj h ▸ Fault.isTold_badValue
  · cases h

theorem told_of_checkSize (h : checkSize v = .error fault) : (Failure.fault fault).IsTold := by
  unfold checkSize at h
  split at h
  · split at h
    · exact Except.error.inj h ▸ Fault.isTold_badValue
    · cases h
  · cases h

theorem roundDigits_error {digits : Value} (h : roundDigits v digits = .error fault) :
    (Failure.fault fault).IsTold ∨ v.isNull = false ∧
      (Builtin.whole digits = .error fault ∨ ∃ n, Builtin.whole digits = .ok n ∧
        (Decimal.checkPlace (-n) = .error fault ∨
          fault = .noDecimal ∧ (Decimal.read? v.plain).bind (·.roundTo? (-n)) = none)) := by
  unfold roundDigits at h
  split at h
  · cases h
  · rename_i hv
    rcases bind_eq_error.mp h with hdigits | ⟨n, hdigits, h⟩
    · exact .inr ⟨Value.isNull_eq_false hv, .inl hdigits⟩
    · rcases bind_eq_error.mp h with hplace | ⟨_, _, h⟩
      · exact .inr ⟨Value.isNull_eq_false hv, .inr ⟨n, hdigits, .inl hplace⟩⟩
      · rcases bind_eq_error.mp h with hsize | ⟨_, _, h⟩
        · exact .inl (told_of_checkSize hsize)
        · split at h
          · exact .inl (told_of_rounded h)
          · rename_i hnone
            exact .inr ⟨Value.isNull_eq_false hv, .inr ⟨n, hdigits,
              .inr ⟨(Except.error.inj h).symm, hnone⟩⟩⟩

theorem explains_round : Explains "round" round := by
  intro args fault h
  unfold round at h
  split at h
  · rename_i v
    rcases roundDigits_error h with htold | ⟨hv, hdigits | ⟨n, hdigits, hplace | ⟨rfl, hnone⟩⟩⟩
    · exact .inl htold
    · cases hdigits
    · cases hdigits
      cases hplace
    · exact .inr (@Escapes.decimal v [] n hv hdigits hnone)
  · rename_i v digits
    rcases roundDigits_error h with htold | ⟨hv, hdigits | ⟨n, hdigits, hplace | ⟨rfl, hnone⟩⟩⟩
    · exact .inl htold
    · exact told_or_escapes_of_bound (by simp) hv hdigits
    · obtain ⟨hfar, hfault⟩ := Decimal.checkPlace_error hplace
      rw [Int.natAbs_neg] at hfar
      exact .inr (.place hv hdigits hfar hfault)
    · exact .inr (@Escapes.decimal v [digits] n hv hdigits hnone)
  · exact told_of_wrongType h

end Processor

def Explained (m : Modifier) : Prop :=
  ∀ args scope s f t, exec (m.apply args scope) s = (.error f, t) →
    f.IsTold ∨ ∃ fault, f = .fault fault ∧ Escapes m.name args fault

theorem isTold_of_formulaOver {formula : Value} {scope : Record} {f : Failure}
    (h : formulaOver formula scope = .error f) : f.IsTold := by
  unfold formulaOver at h
  split at h
  · cases hvalue : Expression.evaluateFormula _ scope with
    | ok v =>
        rw [hvalue] at h
        cases h
    | error e =>
        rw [hvalue] at h
        cases h
        exact .inl rfl
  · cases h
    exact .inl rfl

theorem isTold_of_fail {α : Type} {s t : Session} {f : Failure}
    (h : exec (Run.fail (α := α) (.fault .wrongType)) s = (.error f, t)) : f.IsTold := by
  cases h
  exact Fault.isTold_wrongType

namespace Validator

theorem explained_of {check : Check} (hcheck : Explains name check) :
    (of name check).Explained := by
  intro args scope s f t h
  unfold of at h
  obtain ⟨⟨fault, hresult, rfl⟩, -⟩ := exec_ofFault_eq_error.mp h
  exact (hcheck args fault (map_eq_error.mp hresult)).imp_right
    fun hescapes => ⟨fault, rfl, hescapes⟩

theorem explained_expression : expression.Explained := by
  intro args scope s f t h
  unfold expression at h
  dsimp only at h
  split at h
  · rw [exec_ofExcept] at h
    exact .inl (isTold_of_formulaOver (map_eq_error.mp (congrArg Prod.fst h)))
  · exact .inl (isTold_of_fail h)

theorem explained_builtin : ∀ m ∈ builtin, m.Explained := by
  simp only [builtin, List.forall_mem_cons, explained_of explains_notEmpty,
    explained_of explains_minLength, explained_of explains_maxLength,
    explained_of explains_matchesPattern, explained_of explains_isEmail,
    explained_of explains_oneOf, explained_of explains_atLeast, explained_of explains_atMost,
    explained_of explains_equals, explained_expression, true_and]
  simp

end Validator

namespace Processor

theorem explained_of {change : Change} (hchange : Explains name change) :
    (of name change).Explained := by
  intro args scope s f t h
  unfold of at h
  obtain ⟨⟨fault, hresult, rfl⟩, -⟩ := exec_ofFault_eq_error.mp h
  exact (hchange args fault hresult).imp_right fun hescapes => ⟨fault, rfl, hescapes⟩

theorem explained_transform : transform.Explained := by
  intro args scope s f t h
  unfold transform at h
  dsimp only at h
  split at h
  · rw [exec_ofExcept] at h
    exact .inl (isTold_of_formulaOver (congrArg Prod.fst h))
  · exact .inl (isTold_of_fail h)

theorem explained_builtin : ∀ m ∈ builtin, m.Explained := by
  simp only [builtin, List.forall_mem_cons, explained_of (explains_onText _ _),
    explained_of explains_hash, explained_of explains_truncate, explained_of explains_round,
    explained_transform, true_and]
  simp

end Processor

namespace Activator

theorem explained_of {derive : List Value → Run Value}
    (hderive : ∀ args s f t, exec (derive args) s = (.error f, t) → f.IsTold) :
    (of name derive).Explained :=
  fun args _ s f t h => .inl (hderive args s f t h)

theorem isTold_of_argument {s t : Session} {f : Failure}
    (h : exec (argument args) s = (.error f, t)) : f.IsTold := by
  unfold argument at h
  split at h
  · cases h
  · exact isTold_of_fail h

theorem isTold_of_now {s t : Session} {f : Failure} (h : exec (now args) s = (.error f, t)) :
    f.IsTold := by
  unfold now at h
  split at h
  · cases h
  · exact isTold_of_fail h

theorem isTold_of_uuid {s t : Session} {f : Failure} (h : exec (uuid args) s = (.error f, t)) :
    f.IsTold := by
  unfold uuid at h
  split at h
  · cases h
  · exact isTold_of_fail h

theorem explained_formula : formula.Explained := by
  intro args scope s f t h
  unfold formula at h
  dsimp only at h
  split at h
  · rw [exec_ofExcept] at h
    exact .inl (isTold_of_formulaOver (congrArg Prod.fst h))
  · exact .inl (isTold_of_fail h)

theorem explained_builtin : ∀ m ∈ builtin, m.Explained := by
  have hconcat : ∀ args s f t, exec (concat args) s = (.error f, t) → f.IsTold := by
    intro args s f t h
    cases h
  simp only [builtin, List.forall_mem_cons,
    explained_of fun _ _ _ _ h => isTold_of_argument h, explained_formula,
    explained_of hconcat, explained_of fun _ _ _ _ h => isTold_of_now h,
    explained_of fun _ _ _ _ h => isTold_of_uuid h, true_and]
  simp

end Activator

end Modifier

theorem ModifierTable.explained_builtin : ∀ m ∈ builtin, m.Explained := by
  intro m hm
  rcases List.mem_append.mp hm with hm | hm
  · rcases List.mem_append.mp hm with hm | hm
    · exact Modifier.Validator.explained_builtin m hm
    · exact Modifier.Processor.explained_builtin m hm
  · exact Modifier.Activator.explained_builtin m hm

end FieldPipeline
