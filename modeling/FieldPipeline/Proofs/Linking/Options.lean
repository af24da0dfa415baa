import FieldPipeline.Proofs.Entries
import FieldPipeline.Proofs.Linking.Callbacks

/-!
What the options of a feature become in their stored form, and which are refused.
-/

namespace FieldPipeline

namespace Feature

variable {usual : Record} {raw options : Value} {e : Failure}

theorem fieldOptions_error (h : fieldOptions usual raw = .error e) : e.kind = .badValue := by
  unfold fieldOptions at h
  split at h
  all_goals
    cases h
    try rfl

theorem ofValue?_fieldOptions (h : fieldOptions usual raw = .ok options) :
    (Record.ofValue? options).isSome = true ↔
      ∀ es, raw = .dict es → ∀ e ∈ es, e.1.isText = true := by
  have husual : ∀ e ∈ usual.entries, e.1.isText = true := Record.exists_entries_iff.mp ⟨usual, rfl⟩
  unfold fieldOptions at h
  split at h
  · cases h
    rw [Record.toValue_eq, Record.ofValue?_entries]
    simp
  · cases h
    rw [Record.toValue_eq, Record.ofValue?_entries]
    simp
  · rename_i es
    cases h
    change (Record.ofValue? (.dict (es.foldl _ usual.entries))).isSome = true ↔ _
    rw [Record.isSome_ofValue?_iff, Value.forall_foldl_putEntry Value.isText_eq_of_alike]
    constructor
    · rintro ⟨hes, _⟩ es' heq
      cases heq
      exact hes
    · intro hes
      exact ⟨hes es rfl, husual⟩
  · cases h

@[simp] theorem Deletion.isNew_optionsOf (name mark : Value) (fresh : Bool) :
    isNew (optionsOf name mark fresh) = fresh := by
  unfold isNew optionsOf
  rw [Record.under?_toValue]
  rfl

@[simp] theorem Deletion.mark_optionsOf (name value : Value) (fresh : Bool) :
    mark (optionsOf name value fresh) = (name, value) := by
  unfold mark optionsOf
  rw [Record.under?_toValue, Record.under?_toValue]
  rfl

theorem Deletion.normalize_ok (h : Deletion.normalize raw = .ok options) :
    isNew options = true ∨
      ∃ name value, raw = .dict [(name, value)] ∧ isNew options = false ∧
        (mark options).1 = name := by
  unfold Deletion.normalize at h
  split at h
  all_goals cases h
  · exact .inl (isNew_optionsOf _ _ _)
  · exact .inl (isNew_optionsOf _ _ _)
  · exact .inl (isNew_optionsOf _ _ _)
  · exact .inr ⟨_, _, rfl, isNew_optionsOf _ _ _, by rw [mark_optionsOf]⟩

theorem Deletion.normalize_error (h : Deletion.normalize raw = .error e) : e.kind = .badValue := by
  unfold Deletion.normalize at h
  split at h
  all_goals cases h
  rfl

theorem Nullability.normalize_ok (h : Nullability.normalize raw = .ok options) :
    (∃ s, raw = .text s ∧ names options = [.text s]) ∨ raw.members? = some (names options) := by
  unfold Nullability.normalize at h
  split at h
  · cases h
  · split at h
    · cases h
      exact .inl ⟨_, rfl, rfl⟩
    · split at h
      · rename_i hmembers
        cases h
        exact .inr hmembers
      · cases h

theorem Nullability.normalize_error (h : Nullability.normalize raw = .error e) :
    e.kind = .badValue ∨
      e = .fault .wrongType ∧ raw.isTrue = true ∧ raw.members? = none := by
  unfold Nullability.normalize at h
  split at h
  · cases h
    exact .inl rfl
  · rename_i hgiven
    split at h
    · cases h
    · split at h
      · cases h
      · rename_i hmembers
        cases h
        exact .inr ⟨rfl, by simpa using hgiven, hmembers⟩

@[simp] theorem StateTracking.tracked_optionsOf (name : Value) (reversible : Bool) :
    tracked (optionsOf name reversible) = name := by
  unfold tracked optionsOf
  rw [Record.under?_toValue]
  rfl

theorem StateTracking.normalize_ok (h : StateTracking.normalize raw = .ok options) :
    (∃ s, raw = .text s ∧ tracked options = .text s) ∨
      raw.under? "field" = some (tracked options) ∧ (tracked options).isTrue = true := by
  unfold StateTracking.normalize at h
  split at h
  · cases h
  · cases h
    exact .inl ⟨_, rfl, tracked_optionsOf _ _⟩
  · split at h
    · rename_i field hfield
      split at h
      · rename_i hgiven
        cases h
        rw [tracked_optionsOf]
        exact .inr ⟨hfield, hgiven⟩
      · cases h
    · cases h

theorem StateTracking.normalize_error (h : StateTracking.normalize raw = .error e) :
    e.kind = .badValue := by
  unfold StateTracking.normalize at h
  split at h
  · cases h
    rfl
  · cases h
  · split at h
    · split at h
      · cases h
      · cases h
        rfl
    · cases h
      rfl

theorem Localization.normalize_ok (h : Localization.normalize raw = .ok options) :
    raw.under? "field" = some (localized options) ∧ (localized options).isTrue = true ∧
      ∃ es, raw.under? "locales" = some (.dict es) ∧
        options.under? "locales" = some (.dict es) := by
  unfold Localization.normalize at h
  split at h
  · rename_i es
    dsimp only at h
    split at h
    · cases h
    · rename_i hgiven
      split at h
      · rename_i first rest hlocales
        cases h
        unfold localized
        rw [Record.under?_toValue, Record.under?_toValue]
        refine ⟨?_, by simpa [Record.get?_cons] using hgiven, first :: rest, hlocales, rfl⟩
        cases hfield : (Value.dict es).under? "field" with
        | none =>
            rw [hfield] at hgiven
            exact absurd rfl hgiven
        | some field => rfl
      · cases h
  · cases h

theorem Localization.normalize_error (h : Localization.normalize raw = .error e) :
    e.kind = .badValue := by
  unfold Localization.normalize at h
  split at h
  · dsimp only at h
    split at h
    · cases h
      rfl
    · split at h
      · cases h
      · cases h
        rfl
  · cases h
    rfl

theorem Localization.forall_suffixes {es : List (Value × Value)}
    (h : options.under? "locales" = some (.dict es)) :
    (∀ suffix ∈ suffixes options, suffix.isHashable = true) ↔
      ∀ e ∈ es, e.2.isHashable = true := by
  unfold suffixes
  rw [h]
  dsimp only
  rw [List.forall_mem_map, Value.forall_dictOf Value.isHashable_eq_of_alike, List.forall_mem_map]

end Feature

end FieldPipeline
