import FieldPipeline.Proofs.Linking.Draft

/-!
What the work of a built-in feature comes to: the draft that it leaves when it succeeds, and how
it can fail.  It fails because of an unusable value, or because a name that it looks up is one that
cannot be looked up.
-/

namespace FieldPipeline

namespace Draft

theorem knows_eq_true_iff {d : Draft} {name : Value} :
    d.knows name = true ↔ ∃ f, name = .text f.name ∧ d.field? f.name = some f := by
  cases name with
  | text s =>
      constructor
      · intro h
        obtain ⟨f, hf⟩ := Option.isSome_iff_exists.mp h
        have hname : f.name = s := by simpa using List.find?_some hf
        exact ⟨f, by rw [hname], by rw [hname, hf]⟩
      · rintro ⟨f, hname, hf⟩
        cases hname
        simp [knows, hasField, hf]
  | _ => simp [knows]

theorem mem_of_field? {d : Draft} {name : String} {f : FieldDeclaration}
    (h : d.field? name = some f) : f ∈ d.fields :=
  List.mem_of_find?_eq_some h

end Draft

namespace Link

variable {α : Type} {d t : Draft}

theorem exec_bind_hasField (name : Value) (f : Bool → Link α) (d : Draft) :
    exec (Link.hasField name >>= f) d =
      if name.isHashable then exec (f (d.knows name)) d else (.error (.fault .wrongType), d) := by
  rw [exec_bind, exec_hasField]
  cases name.isHashable <;> rfl

theorem exec_getField {name : String} {f : FieldDeclaration} (h : d.field? name = some f) :
    exec (Link.getField name) d = (.ok f, d) := by
  unfold Link.getField
  rw [exec_bind_of_ok (exec_get d), h]
  rfl

theorem exec_addField (f : FieldDeclaration) (d : Draft) :
    exec (Link.addField f) d =
      if d.hasField f.name then (.error (.feature (.fieldDefined f.name)), d)
      else (.ok (), { d with fields := d.fields ++ [f] }) := by
  unfold Link.addField
  rw [exec_bind_of_ok (exec_get d)]
  cases d.hasField f.name <;> rfl

theorem exec_addField_ok {f : FieldDeclaration} (h : exec (Link.addField f) d = (.ok (), t)) :
    t = { d with fields := d.fields ++ [f] } := by
  rw [exec_addField] at h
  split at h
  · cases h
  · cases h
    rfl

theorem exec_addField_error {f : FieldDeclaration} {e : Failure}
    (h : exec (Link.addField f) d = (.error e, t)) : e.kind = .badValue := by
  rw [exec_addField] at h
  split at h
  · cases h
    rfl
  · cases h

theorem exec_forM_addField_ok {field : α → FieldDeclaration} {l : List α}
    (h : exec (l.forM fun a => Link.addField (field a)) d = (.ok (), t)) :
    t = { d with fields := d.fields ++ l.map field } := by
  induction l generalizing d with
  | nil =>
      cases h
      simp
  | cons a l ih =>
      rw [exec_forM_cons, exec_bind_eq_ok] at h
      obtain ⟨_, u, hfirst, hrest⟩ := h
      rw [ih hrest, exec_addField_ok hfirst]
      simp

theorem exec_forM_addField_error {field : α → FieldDeclaration} {l : List α} {e : Failure}
    (h : exec (l.forM fun a => Link.addField (field a)) d = (.error e, t)) :
    e.kind = .badValue := by
  obtain ⟨_, _, _, _, _, _, hfails⟩ := exec_forM_error_split h
  exact exec_addField_error hfails

theorem exec_relax {name : String} (h : d.hasField name = true) :
    exec (Link.updateField name fun f =>
      { f with optional := true, given := "optional" :: f.given }) d =
      (.ok (), { d with fields := d.fields.map (Draft.relaxed name) }) := by
  unfold Link.updateField
  rw [exec_bind_of_ok (exec_get d), if_pos h]
  rfl

end Link

namespace Feature

open Link

variable {options : Value} {d t : Draft} {e : Failure}

/-! ### Described fields -/

theorem describedField_error (h : describedField options = .error e) :
    e.kind = .badValue ∨ e = .fault .wrongType ∧ Record.ofValue? options = none := by
  unfold describedField at h
  split at h
  · unfold FieldDeclaration.ofRecord Check.result at h
    split at h
    · cases h
    · cases h
      exact .inl rfl
  · rename_i hrecord
    cases h
    exact .inr ⟨rfl, hrecord⟩

theorem addDescribed_ok {f : FieldDeclaration} (h : exec (addDescribed options) d = (.ok f, t)) :
    describedField options = .ok f ∧ t = { d with fields := d.fields ++ [f] } := by
  unfold addDescribed at h
  split at h
  · rename_i g hg
    rw [exec_bind_eq_ok] at h
    obtain ⟨_, u, hadd, h⟩ := h
    cases h
    exact ⟨hg, exec_addField_ok hadd⟩
  · cases h

theorem addDescribed_error (h : exec (addDescribed options) d = (.error e, t)) :
    e.kind = .badValue ∨ e = .fault .wrongType ∧ Record.ofValue? options = none := by
  unfold addDescribed at h
  split at h
  · rw [exec_bind_eq_error] at h
    rcases h with h | ⟨_, _, _, h⟩
    · exact .inl (exec_addField_error h)
    · cases h
  · rename_i hdescribed
    cases h
    exact describedField_error hdescribed

theorem addDescribed_bind_ok {x : Link Unit}
    (h : exec (addDescribed options >>= fun _ => x) d = (.ok (), t)) :
    ∃ f, describedField options = .ok f ∧
      exec x { d with fields := d.fields ++ [f] } = (.ok (), t) := by
  rw [exec_bind_eq_ok] at h
  obtain ⟨f, _, hadd, h⟩ := h
  obtain ⟨hf, rfl⟩ := addDescribed_ok hadd
  exact ⟨f, hf, h⟩

theorem ofValue?_of_describedField {f : FieldDeclaration} (h : describedField options = .ok f) :
    (Record.ofValue? options).isSome = true := by
  unfold describedField at h
  split at h
  · rename_i hrecord
    simp [hrecord]
  · cases h

/-! ### Deletion -/

namespace Deletion

def isNew (options : Value) : Bool :=
  ((options.under? "new_field").getD .null).isTrue

def flags (options : Value) : List FieldDeclaration :=
  if isNew options then [flagField (mark options).1.plain] else []

theorem addFlag_ok (h : exec (addFlag options) d = (.ok (), t)) :
    t = { d with fields := d.fields ++ flags options } ∧
      (isNew options = false → (mark options).1.isHashable = true) := by
  unfold addFlag at h
  unfold flags isNew
  dsimp only at h
  split at h
  · rename_i hnew
    rw [exec_addField_ok h, if_pos hnew]
    exact ⟨rfl, fun hold => by simp [hold] at hnew⟩
  · rename_i hold
    rw [if_neg hold]
    rw [exec_bind_hasField] at h
    split at h
    · rename_i hname
      split at h
      · cases h
        simp [hname]
      · cases h
    · cases h

theorem addFlag_error (h : exec (addFlag options) d = (.error e, t)) :
    e.kind = .badValue ∨
      e = .fault .wrongType ∧ isNew options = false ∧ (mark options).1.isHashable = false := by
  unfold addFlag at h
  dsimp only at h
  split at h
  · exact .inl (exec_addField_error h)
  · rename_i hold
    rw [exec_bind_hasField] at h
    split at h
    · split at h
      · cases h
      · cases h
        exact .inl rfl
    · rename_i hname
      cases h
      exact .inr ⟨rfl, by simpa [isNew] using hold, by simpa using hname⟩

end Deletion

/-! ### Localization -/

namespace Localization

def localized (options : Value) : Value :=
  (options.under? "field").getD .null

def copies (options : Value) (source : FieldDeclaration) : List FieldDeclaration :=
  ((suffixes options).filter (!isDefault ·)).map fun suffix =>
    { source with name := source.name ++ "_" ++ suffix.plain }

theorem addCopies_ok (h : exec (addCopies options) d = (.ok (), t)) :
    ∃ source, localized options = .text source.name ∧ d.field? source.name = some source ∧
      (∀ suffix ∈ suffixes options, suffix.isHashable = true) ∧
      t = { d with fields := d.fields ++ copies options source } := by
  unfold addCopies at h
  dsimp only at h
  rw [exec_bind_hasField] at h
  split at h
  · split at h
    · rename_i hknows
      obtain ⟨source, hname, hsource⟩ := Draft.knows_eq_true_iff.mp hknows
      rw [hname] at h
      change exec (Link.getField source.name >>= _) d = _ at h
      rw [exec_bind_of_ok (exec_getField hsource)] at h
      split at h
      · cases h
      · rename_i hsuffixes
        exact ⟨source, hname, hsource, by simpa using hsuffixes, exec_forM_addField_ok h⟩
    · cases h
  · cases h

theorem addCopies_error (h : exec (addCopies options) d = (.error e, t)) :
    e.kind = .badValue ∨ e = .fault .wrongType ∧
      ((localized options).isHashable = false ∨
        ∃ suffix ∈ suffixes options, suffix.isHashable = false) := by
  unfold addCopies at h
  dsimp only at h
  rw [exec_bind_hasField] at h
  split at h
  · split at h
    · rename_i hknows
      obtain ⟨source, hname, hsource⟩ := Draft.knows_eq_true_iff.mp hknows
      rw [hname] at h
      change exec (Link.getField source.name >>= _) d = _ at h
      rw [exec_bind_of_ok (exec_getField hsource)] at h
      split at h
      · rename_i hsuffixes
        cases h
        exact .inr ⟨rfl, .inr (by simpa using hsuffixes)⟩
      · exact .inl (exec_forM_addField_error h)
    · cases h
      exact .inl rfl
  · rename_i hname
    cases h
    exact .inr ⟨rfl, .inl (by simpa [localized] using hname)⟩

end Localization

/-! ### Nullability -/

namespace Nullability

def relax (names : List Value) (f : FieldDeclaration) : FieldDeclaration :=
  names.foldl (fun f name => Draft.relaxed name.plain f) f

theorem makeOptional_ok {names : List Value} (h : exec (makeOptional names) d = (.ok (), t)) :
    (∀ name ∈ names, ∃ s, name = .text s) ∧
      t = { d with fields := d.fields.map (relax names) } := by
  induction names generalizing d with
  | nil =>
      cases h
      simp [show relax [] = id from rfl]
  | cons name rest ih =>
      rw [makeOptional, exec_bind_hasField] at h
      split at h
      · split at h
        · rename_i hknows
          obtain ⟨f, rfl, hf⟩ := Draft.knows_eq_true_iff.mp hknows
          change exec (Link.updateField f.name _ >>= _) d = _ at h
          rw [exec_bind_of_ok (exec_relax hknows)] at h
          obtain ⟨hrest, rfl⟩ := ih h
          refine ⟨List.forall_mem_cons.mpr ⟨⟨f.name, rfl⟩, hrest⟩, ?_⟩
          rw [List.map_map]
          rfl
        · cases h
      · cases h

theorem known_of_makeOptional {names : List Value}
    (h : exec (makeOptional names) d = (.ok (), t)) :
    ∀ name ∈ names, ∃ f ∈ d.fields, name = .text f.name := by
  induction names generalizing d with
  | nil => simp
  | cons name rest ih =>
      rw [makeOptional, exec_bind_hasField] at h
      split at h
      · split at h
        · rename_i hknows
          obtain ⟨f, rfl, hf⟩ := Draft.knows_eq_true_iff.mp hknows
          change exec (Link.updateField f.name _ >>= _) d = _ at h
          rw [exec_bind_of_ok (exec_relax hknows)] at h
          refine List.forall_mem_cons.mpr ⟨⟨f, List.mem_of_find?_eq_some hf, rfl⟩, ?_⟩
          intro name hname
          obtain ⟨_, hrelaxed, rfl⟩ := ih h name hname
          obtain ⟨g, hg, rfl⟩ := List.mem_map.mp hrelaxed
          refine ⟨g, hg, ?_⟩
          rw [Draft.name_relaxed]
        · cases h
      · cases h

theorem makeOptional_error {names : List Value} (h : exec (makeOptional names) d = (.error e, t)) :
    e.kind = .badValue ∨
      e = .fault .wrongType ∧ ∃ name ∈ names, name.isHashable = false := by
  induction names generalizing d with
  | nil => cases h
  | cons name rest ih =>
      rw [makeOptional, exec_bind_hasField] at h
      split at h
      · split at h
        · rename_i hknows
          obtain ⟨f, rfl, hf⟩ := Draft.knows_eq_true_iff.mp hknows
          change exec (Link.updateField f.name _ >>= _) d = _ at h
          rw [exec_bind_of_ok (exec_relax hknows)] at h
          rcases ih h with hbad | ⟨rfl, other, hother, hhash⟩
          · exact .inl hbad
          · exact .inr ⟨rfl, other, List.mem_cons_of_mem _ hother, hhash⟩
        · cases h
          exact .inl rfl
      · rename_i hname
        cases h
        exact .inr ⟨rfl, name, List.mem_cons_self, by simpa using hname⟩

end Nullability

/-! ### Tracking of states -/

namespace StateTracking

theorem addStamps_ok (h : exec (addStamps options) d = (.ok (), t)) :
    ∃ f state states, tracked options = .text f.name ∧ d.field? f.name = some f ∧
      f.type = "enum" ∧ f.values = some (state :: states) ∧
      t = { d with fields := d.fields ++
        (state :: states).map (stampField f.name (isReversible options)) } := by
  unfold addStamps at h
  dsimp only at h
  rw [exec_bind_hasField] at h
  split at h
  · split at h
    · rename_i hknows
      obtain ⟨f, hname, hf⟩ := Draft.knows_eq_true_iff.mp hknows
      rw [hname] at h
      change exec (Link.getField f.name >>= _) d = _ at h
      rw [exec_bind_of_ok (exec_getField hf)] at h
      split at h
      · rename_i state states htype hvalues
        exact ⟨f, state, states, hname, hf, htype, hvalues, exec_forM_addField_ok h⟩
      · cases h
    · cases h
  · cases h

theorem addStamps_error (h : exec (addStamps options) d = (.error e, t)) :
    e.kind = .badValue ∨ e = .fault .wrongType ∧ (tracked options).isHashable = false := by
  unfold addStamps at h
  dsimp only at h
  rw [exec_bind_hasField] at h
  split at h
  · split at h
    · rename_i hknows
      obtain ⟨f, hname, hf⟩ := Draft.knows_eq_true_iff.mp hknows
      rw [hname] at h
      change exec (Link.getField f.name >>= _) d = _ at h
      rw [exec_bind_of_ok (exec_getField hf)] at h
      split at h
      · exact .inl (exec_forM_addField_error h)
      · cases h
        exact .inl rfl
    · cases h
      exact .inl rfl
  · rename_i hname
    cases h
    exact .inr ⟨rfl, by simpa using hname⟩

end StateTracking

end Feature

end FieldPipeline
