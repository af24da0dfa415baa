import FieldPipeline.Proofs.Linking.Build

/-!
The key that a feature sets.  At most one use sets it, before the declared fields, and it stays
until the keys are resolved.
-/

namespace FieldPipeline.Linking

open Link

variable {u : Use} {s t : Draft}

def keyOfUses? (uses : List Use) : Option Value :=
  (uses.find? fun u => u.2.name = "auto_id").map fun u => (u.2.options.under? "name").getD .null

theorem key_of_use {phase : Phase} (hu : u.1 ∈ Feature.builtin) (hname : u.1.name = u.2.name)
    (hidle : u.1.callback? phase = none → t = s)
    (hwork : ∀ callback, u.1.callback? phase = some callback →
      exec (callback u.2.options) s = (.ok (), t)) :
    t.key = if phase = .beforeFields ∧ u.2.name = "auto_id" then
      [(u.2.options.under? "name").getD .null] else s.key := by
  obtain ⟨feature, use⟩ := u
  simp only [Feature.builtin, List.mem_cons, List.not_mem_nil, or_false] at hu
  rcases hu with rfl | rfl | rfl | rfl | rfl | rfl | rfl
  all_goals
    dsimp only at hname hidle hwork
    rw [← hname]
  · cases phase with
    | beforeFields =>
        obtain ⟨f, _, h⟩ := Feature.addDescribed_bind_ok (hwork _ rfl)
        cases h
        rfl
    | _ => rw [hidle rfl]; rfl
  · cases phase with
    | afterFields =>
        obtain ⟨f, _, h⟩ := Feature.addDescribed_bind_ok (hwork _ rfl)
        cases h
        rfl
    | _ => rw [hidle rfl]; rfl
  · cases phase with
    | afterFields =>
        obtain ⟨f, _, h⟩ := Feature.addDescribed_bind_ok (hwork _ rfl)
        cases h
        rfl
    | _ => rw [hidle rfl]; rfl
  · cases phase with
    | afterFields =>
        rw [(Feature.Deletion.addFlag_ok (hwork _ rfl)).1]
        rfl
    | _ => rw [hidle rfl]; rfl
  · cases phase with
    | finalize =>
        rw [(Feature.Nullability.makeOptional_ok (hwork _ rfl)).2]
        rfl
    | _ => rw [hidle rfl]; rfl
  · cases phase with
    | afterFields =>
        obtain ⟨_, _, _, _, _, _, _, ht⟩ := Feature.StateTracking.addStamps_ok (hwork _ rfl)
        rw [ht]
        rfl
    | _ => rw [hidle rfl]; rfl
  · cases phase with
    | afterFields =>
        obtain ⟨_, _, _, _, ht⟩ := Feature.Localization.addCopies_ok (hwork _ rfl)
        rw [ht]
        rfl
    | _ => rw [hidle rfl]; rfl

theorem key_of_runPhase {phase : Phase} (hphase : phase ≠ .beforeFields) {uses : List Use}
    (huses : ∀ u ∈ uses, u.1 ∈ Feature.builtin ∧ u.1.name = u.2.name)
    (h : exec (runPhase phase uses) s = (.ok (), t)) : t.key = s.key := by
  induction uses generalizing s with
  | nil =>
      cases h
      rfl
  | cons u uses ih =>
      obtain ⟨⟨hu, hname⟩, hrest⟩ := List.forall_mem_cons.mp huses
      obtain ⟨s₁, hidle, hwork, h⟩ := exec_runPhase_cons_ok h
      rw [ih hrest h, key_of_use hu hname hidle hwork, if_neg fun h => hphase h.1]

theorem key_of_beforeFields {uses : List Use}
    (huses : ∀ u ∈ uses, u.1 ∈ Feature.builtin ∧ u.1.name = u.2.name)
    (hsingle : uses.Pairwise fun u v => u.2.name = "auto_id" → v.2.name ≠ "auto_id")
    (h : exec (runPhase .beforeFields uses) s = (.ok (), t)) :
    t.key = (keyOfUses? uses).elim s.key fun name => [name] := by
  induction uses generalizing s with
  | nil =>
      cases h
      rfl
  | cons u uses ih =>
      obtain ⟨⟨hu, hname⟩, hrest⟩ := List.forall_mem_cons.mp huses
      obtain ⟨hfirst, hsingle⟩ := List.pairwise_cons.mp hsingle
      obtain ⟨s₁, hidle, hwork, h⟩ := exec_runPhase_cons_ok h
      rw [ih hrest hsingle h, key_of_use hu hname hidle hwork]
      by_cases hauto : u.2.name = "auto_id"
      · have hnone : keyOfUses? uses = none := by
          unfold keyOfUses?
          rw [Option.map_eq_none_iff, List.find?_eq_none]
          simpa using fun v hv => hfirst v hv hauto
        rw [hnone, if_pos ⟨rfl, hauto⟩]
        simp [keyOfUses?, hauto]
      · rw [if_neg fun h => hauto h.2]
        simp [keyOfUses?, hauto]

theorem single_of_pairwise {uses : List Use}
    (huses : ∀ u ∈ uses, u.1 ∈ Feature.builtin ∧ u.1.name = u.2.name)
    (h : uses.Pairwise fun u v => u.2.name = v.2.name → v.1.allowMultiple = true) :
    uses.Pairwise fun u v => u.2.name = "auto_id" → v.2.name ≠ "auto_id" := by
  refine h.imp_of_mem fun {u v} _ hv hmultiple hu hauto => ?_
  obtain ⟨hmem, hname⟩ := huses v hv
  have hfeature : v.1 = Feature.autoId :=
    Feature.eq_of_name hmem (by simp [Feature.builtin]) (hname.trans hauto)
  have hagain := hmultiple (hu.trans hauto.symm)
  rw [hfeature] at hagain
  cases hagain

theorem key_of_phases {fields : List FieldDeclaration} {uses : List Use}
    {begun declared after final : Draft}
    (huses : ∀ u ∈ uses, u.1 ∈ Feature.builtin ∧ u.1.name = u.2.name)
    (hpairs : uses.Pairwise fun u v => u.2.name = v.2.name → v.1.allowMultiple = true)
    (hbegun : exec (runPhase .beforeFields uses) s = (.ok (), begun))
    (hdeclared : exec (addDeclared fields) begun = (.ok (), declared))
    (hafter : exec (runPhase .afterFields uses) declared = (.ok (), after))
    (hfinal : exec (runPhase .finalize uses) after = (.ok (), final)) :
    final.key = (keyOfUses? uses).elim s.key fun name => [name] := by
  rw [key_of_runPhase (by decide) huses hfinal, key_of_runPhase (by decide) huses hafter,
    addDeclared_ok hdeclared, key_of_beforeFields huses (single_of_pairwise huses hpairs) hbegun]

theorem keyOfUses?_of_mem {uses : List Use}
    (hsingle : uses.Pairwise fun u v => u.2.name = "auto_id" → v.2.name ≠ "auto_id") (hu : u ∈ uses)
    (hauto : u.2.name = "auto_id") :
    keyOfUses? uses = some ((u.2.options.under? "name").getD .null) := by
  induction uses with
  | nil => cases hu
  | cons v uses ih =>
      obtain ⟨hfirst, hsingle⟩ := List.pairwise_cons.mp hsingle
      rcases List.mem_cons.mp hu with rfl | hu
      · simp [keyOfUses?, hauto]
      · have hv : v.2.name ≠ "auto_id" := fun hv => hfirst u hu hv hauto
        unfold keyOfUses? at ih ⊢
        rw [List.find?_cons_of_neg (by simpa using hv), ih hsingle hu]

theorem exists_of_keyOfUses? {uses : List Use} {v : Value} (h : keyOfUses? uses = some v) :
    ∃ u ∈ uses, u.2.name = "auto_id" ∧ v = (u.2.options.under? "name").getD .null := by
  obtain ⟨u, hfind, rfl⟩ := Option.map_eq_some_iff.mp h
  exact ⟨u, List.mem_of_find?_eq_some hfind, by simpa using List.find?_some hfind, rfl⟩

end FieldPipeline.Linking
