import FieldPipeline.Proofs.Modifier.Faults
import FieldPipeline.Proofs.Routine.Fusion
import FieldPipeline.Proofs.Routine.Reaching
import FieldPipeline.Proofs.Routine.Turns

/-!
Why the application of a routine fails.  A guard and a condition reject, and so does a validator
that does not accept; any other failure is that of the modifier of a call to which an operation
comes.
-/

namespace FieldPipeline

open Run

/-- Whether a failure is a rejection of values or tells that an operation cannot be carried out
as it is asked for. -/
def Failure.IsDocumented : Failure → Prop
  | .rejected _ | .misuse _ => True
  | _ => False

theorem Failure.IsDocumented.isInterruption_eq {f : Failure} (h : f.IsDocumented) :
    f.isInterruption = false := by
  cases f with
  | rejected | misuse => rfl
  | _ => exact h.elim

namespace Call

variable {entity target : String} {scope : Record} {values : List Value} {c : Call}
  {s t : Session} {f : Failure}

theorem isDocumented_retell (h : f.IsTold) : (c.retell entity target f).IsDocumented := by
  unfold retell
  rcases h with h | h | h <;> rw [h] <;> exact trivial

theorem isDocumented_of_applies (h : c.applies entity target scope = .error f) :
    f.IsDocumented := by
  unfold applies at h
  split at h
  · cases h
  · rename_i condition _
    cases hholds : Expression.conditionHolds condition scope with
    | ok holds =>
        rw [hholds] at h
        cases h
    | error e =>
        rw [hholds] at h
        cases h
        exact trivial

theorem documented_or_escapes_of_invoke (hc : c.modifier.Explained)
    (h : exec (c.invoke entity target scope values) s = (.error f, t)) :
    f.IsDocumented ∨ ∃ fault, f = .fault fault ∧
      Modifier.Escapes c.modifier.name (values ++ c.argsIn scope) fault := by
  unfold invoke at h
  rw [exec_explain] at h
  rcases hresult : exec (c.modifier.apply (values ++ c.argsIn scope) scope) s with ⟨g | v, u⟩
  · rw [hresult] at h
    cases h
    by_cases htold : g.IsTold
    · exact .inl (isDocumented_retell htold)
    · rcases hc _ _ _ _ _ hresult with htold' | ⟨fault, rfl, hescapes⟩
      · exact absurd htold' htold
      · refine .inr ⟨fault, ?_, hescapes⟩
        unfold retell
        split
        · exact absurd (.inl ‹_›) htold
        · exact absurd (.inr (.inl ‹_›)) htold
        · exact absurd (.inr (.inr ‹_›)) htold
        · rfl
  · rw [hresult] at h
    cases h

end Call

namespace Operation

variable {entity target : String} {calls : List Call} {scope : Record} {v : Value}
  {s t : Session} {f : Failure}

theorem validate_error (h : exec (validate entity target scope v calls) s = (.error f, t)) :
    f.IsDocumented ∨ ∃ before c after u, calls = before ++ c :: after ∧
      exec (validate entity target scope v before) s = (.ok (), u) ∧
      exec (c.invoke entity target scope [v]) u = (.error f, t) := by
  induction calls generalizing s with
  | nil => cases h
  | cons c calls ih =>
      rw [validate, exec_bind_eq_error] at h
      rcases h with hc | ⟨accepted, s₁, hc, h⟩
      · exact .inr ⟨[], c, calls, s, rfl, rfl, hc⟩
      · by_cases htrue : accepted.isTrue = true
        · rw [if_pos htrue] at h
          refine (ih h).imp_right ?_
          rintro ⟨before, c', after, u, rfl, hbefore, hfails⟩
          refine ⟨c :: before, c', after, u, rfl, ?_, hfails⟩
          rw [validate, exec_bind_of_ok hc, if_pos htrue]
          exact hbefore
        · rw [if_neg htrue] at h
          cases h
          exact .inl trivial

theorem process_error (h : exec (process entity target scope v calls) s = (.error f, t)) :
    ∃ before c after w u, calls = before ++ c :: after ∧
      exec (process entity target scope v before) s = (.ok w, u) ∧
      exec (c.invoke entity target (if before.isEmpty then scope else scope.put target w) [w]) u =
        (.error f, t) := by
  induction calls generalizing scope v s with
  | nil => cases h
  | cons c calls ih =>
      rw [process, exec_bind_eq_error] at h
      rcases h with hc | ⟨result, s₁, hc, h⟩
      · exact ⟨[], c, calls, v, s, rfl, rfl, hc⟩
      · obtain ⟨before, c', after, w, u, rfl, hbefore, hfails⟩ := ih h
        refine ⟨c :: before, c', after, w, u, rfl, ?_, ?_⟩
        · rw [process, exec_bind_of_ok hc]
          exact hbefore
        · cases before with
          | nil =>
              cases hbefore
              simpa using hfails
          | cons _ _ => simpa using hfails

theorem derive?_error (h : exec (derive? entity target scope calls) s = (.error f, t)) :
    f.IsDocumented ∨ ∃ before c after u, calls = before ++ c :: after ∧
      exec (derive? entity target scope before) s = (.ok none, u) ∧
      exec (c.invoke entity target scope []) u = (.error f, t) := by
  induction calls generalizing s with
  | nil => cases h
  | cons c calls ih =>
      rw [derive?, exec_bind_eq_error] at h
      rcases h with happlies | ⟨applies, s₁, happlies, h⟩
      · rw [exec_ofExcept] at happlies
        exact .inl (Call.isDocumented_of_applies (congrArg Prod.fst happlies))
      · cases applies with
        | true =>
            rw [if_pos rfl, exec_bind_eq_error] at h
            rcases h with hc | ⟨_, _, _, h⟩
            · rw [exec_ofExcept] at happlies
              cases congrArg Prod.snd happlies
              exact .inr ⟨[], c, calls, s, rfl, rfl, hc⟩
            · cases h
        | false =>
            refine (ih h).imp_right ?_
            rintro ⟨before, c', after, u, rfl, hbefore, hfails⟩
            refine ⟨c :: before, c', after, u, rfl, ?_, hfails⟩
            rw [derive?, exec_bind_of_ok happlies]
            exact hbefore

theorem exists_reaches_of_error {o : Operation}
    (h : exec (runCalls entity o.target o.kind o.calls) s = (.error f, t)) :
    f.IsDocumented ∨ ∃ c scope values u, o.Reaches entity s c scope values u ∧
      exec (c.invoke entity o.target scope values) u = (.error f, t) := by
  cases hkind : o.kind with
  | validator =>
      rw [hkind, exec_runCalls_validator] at h
      refine (validate_error h).imp_right ?_
      rintro ⟨before, c, after, u, hcalls, hbefore, hfails⟩
      exact ⟨c, _, _, u, .validator before after u hkind hcalls hbefore, hfails⟩
  | processor =>
      rw [hkind, exec_runCalls_processor, exec_bind_eq_error] at h
      rcases h with h | ⟨_, _, _, h⟩
      · obtain ⟨before, c, after, w, u, hcalls, hbefore, hfails⟩ := process_error h
        exact .inr ⟨c, _, _, u, .processor before after w u hkind hcalls hbefore, hfails⟩
      · cases h
  | activator =>
      rw [hkind, exec_runCalls_activator, exec_bind_eq_error] at h
      rcases h with h | ⟨derived, _, _, h⟩
      · refine (derive?_error h).imp_right ?_
        rintro ⟨before, c, after, u, hcalls, hbefore, hfails⟩
        exact ⟨c, _, _, u, .activator before after u hkind hcalls hbefore, hfails⟩
      · cases derived <;> cases h

end Operation

namespace Group

variable {e : Entity} {c : Context} {g : Group}

theorem isDocumented_of_answer {f : Failure} (h : g.answer e c = .error f) : f.IsDocumented := by
  unfold answer at h
  split at h
  · cases h
  · cases h
    exact trivial
  · split at h
    · cases h
    · cases h
      exact trivial

theorem run_of_answer (h : g.answer e c = .ok true) :
    g.verdict e c = .run ∧ g.missing c = [] := by
  unfold answer at h
  split at h
  · cases h
  · cases h
  · rename_i hverdict
    split at h
    · exact ⟨hverdict, ‹_›⟩
    · cases h

end Group

namespace Routine

variable {e : Entity} {r : Routine} {s t : Session} {f : Failure}

theorem exists_reaches_of_error (hholds : ∀ g ∈ r.groups, ∀ o ∈ g.operations, g.Holds o)
    (h : exec (r.apply e) s = (.error f, t)) :
    f.IsDocumented ∨ ∃ o v c scope values u, r.Starts e s o v ∧
      o.Reaches e.name v c scope values u ∧
      exec (c.invoke e.name o.target scope values) u = (.error f, t) := by
  obtain ⟨before, g, after, u, hgroups, hbefore, hg⟩ := exec_forM_error_split h
  rw [Group.apply_eq, exec_bind_eq_error, Group.exec_admits] at hg
  rcases hg with hguard | ⟨admitted, u', hguard, hg⟩
  · exact .inl (Group.isDocumented_of_answer (congrArg Prod.fst hguard))
  · cases admitted with
    | false => cases hg
    | true =>
        rw [if_pos rfl] at hg
        cases congrArg Prod.snd hguard
        obtain ⟨hverdict, hmissing⟩ := Group.run_of_answer (congrArg Prod.fst hguard)
        obtain ⟨done, o, rest, v, hoperations, hdone, ho⟩ := exec_forM_error_split hg
        have hhold := hholds g (by simp [hgroups]) o (by simp [hoperations])
        rw [← hhold.target_eq] at ho
        refine (Operation.exists_reaches_of_error ho).imp_right ?_
        rintro ⟨c, scope, values, w, hreaches, hfails⟩
        exact ⟨o, v, c, scope, values, w,
          ⟨before, g, after, done, rest, u, hgroups, hbefore, hverdict, hmissing, hoperations,
            hdone⟩, hreaches, hfails⟩

end Routine

end FieldPipeline
