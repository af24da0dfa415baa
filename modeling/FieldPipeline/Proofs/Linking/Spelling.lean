import FieldPipeline.Proofs.Linking.Build

/-!
The spelling of types.  When the type of a declared field is written in another way, linking goes
the same way and comes to the same.  One feature looks at the spelling: the tracking of states
stops where the type of its field is an enumeration but not written as `enum`.
-/

namespace FieldPipeline

variable {before after : String}

/-- Whether a field is another one, or that one with its type written in another way. -/
def FieldDeclaration.Respells (before after : String) (f g : FieldDeclaration) : Prop :=
  g = f ∨ f.type = before ∧ g = { f with type := after }

namespace FieldDeclaration.Respells

variable {f g : FieldDeclaration}

theorem refl (f : FieldDeclaration) : f.Respells before after f :=
  .inl rfl

theorem name_eq (h : f.Respells before after g) : g.name = f.name := by
  rcases h with rfl | ⟨_, rfl⟩ <;> rfl

theorem eq_or_ne (h : f.Respells before after g) :
    g = f ∨ f.type = before ∧ after ≠ before ∧ g = { f with type := after } := by
  rcases h with rfl | ⟨htype, rfl⟩
  · exact .inl rfl
  · by_cases hne : after = before
    · subst hne htype
      exact .inl rfl
    · exact .inr ⟨htype, hne, rfl⟩

theorem renamed (h : f.Respells before after g) (name : String) :
    Respells before after { f with name } { g with name } := by
  rcases h with rfl | ⟨htype, rfl⟩
  · exact .refl _
  · exact .inr ⟨htype, rfl⟩

theorem relaxed (h : f.Respells before after g) (name : String) :
    (Draft.relaxed name f).Respells before after (Draft.relaxed name g) := by
  rcases h with rfl | ⟨htype, rfl⟩
  · exact .refl _
  · unfold Draft.relaxed
    by_cases hname : f.name = name
    · simp only [hname, if_true]
      exact .inr ⟨htype, rfl⟩
    · simp only [hname, if_false]
      exact .inr ⟨htype, rfl⟩

theorem find? {fs gs : List FieldDeclaration} (h : List.Forall₂ (Respells before after) fs gs)
    (name : String) :
    (fs.find? (·.name = name) = none ∧ gs.find? (·.name = name) = none) ∨
      ∃ f g, fs.find? (·.name = name) = some f ∧ gs.find? (·.name = name) = some g ∧
        f.Respells before after g := by
  induction h with
  | nil => exact .inl ⟨rfl, rfl⟩
  | @cons f g fs gs hfg _ ih =>
      by_cases hname : f.name = name
      · have hname' : g.name = name := hfg.name_eq.trans hname
        exact .inr ⟨f, g, List.find?_cons_of_pos (by simpa using hname),
          List.find?_cons_of_pos (by simpa using hname'), hfg⟩
      · have hname' : ¬g.name = name := fun h => hname (hfg.name_eq.symm.trans h)
        rw [List.find?_cons_of_neg (by simpa using hname),
          List.find?_cons_of_neg (by simpa using hname')]
        exact ih

end FieldDeclaration.Respells

structure Draft.Respells (declared : Declaration) (before after : String) (d e : Draft) : Prop where
  left : d.declaration = declared
  right : ∃ fields, e.declaration = { declared with fields }
  fields : List.Forall₂ (FieldDeclaration.Respells before after) d.fields e.fields
  key : e.key = d.key

namespace Draft.Respells

variable {declared : Declaration} {d e : Draft}

theorem right_name (h : d.Respells declared before after e) :
    e.declaration.name = declared.name := by
  obtain ⟨fields, he⟩ := h.right
  rw [he]

theorem field? (h : d.Respells declared before after e) (name : String) :
    (d.field? name = none ∧ e.field? name = none) ∨
      ∃ f g, d.field? name = some f ∧ e.field? name = some g ∧ f.Respells before after g :=
  FieldDeclaration.Respells.find? h.fields name

theorem hasField (h : d.Respells declared before after e) (name : String) :
    e.hasField name = d.hasField name := by
  unfold Draft.hasField
  rcases h.field? name with ⟨hd, he⟩ | ⟨f, g, hd, he, _⟩ <;> rw [hd, he]
  rfl

theorem knows (h : d.Respells declared before after e) (name : Value) :
    e.knows name = d.knows name := by
  cases name with
  | text s => exact h.hasField s
  | _ => rfl

theorem added (h : d.Respells declared before after e) {f g : FieldDeclaration}
    (hfg : f.Respells before after g) :
    Draft.Respells declared before after { d with fields := d.fields ++ [f] }
      { e with fields := e.fields ++ [g] } :=
  { h with fields := List.rel_append h.fields (.cons hfg .nil) }

theorem relaxed (h : d.Respells declared before after e) (name : String) :
    Draft.Respells declared before after { d with fields := d.fields.map (Draft.relaxed name) }
      { e with fields := e.fields.map (Draft.relaxed name) } :=
  { h with fields := List.rel_map (fun _ _ hfg => hfg.relaxed name) h.fields }

end Draft.Respells

/-! ### Corresponding runs -/

namespace Link

theorem exec_getField_of_none {name : String} {d : Draft} (h : d.field? name = none) :
    exec (Link.getField name) d = (.error (.fault .missingKey), d) := by
  unfold Link.getField
  rw [exec_bind_of_ok (exec_get d), h]
  rfl

/-- Whether two runs on drafts come to the same, or the second one stops because its type is not
written as it has to be. -/
inductive Corresponds (declared : Declaration) (before after : String) (stops : Failure → Prop)
    {α : Type} : Except Failure α × Draft → Except Failure α × Draft → Prop
  | same {r : Except Failure α} {d e : Draft} (h : d.Respells declared before after e) :
      Corresponds declared before after stops (r, d) (r, e)
  | stopped {p : Except Failure α × Draft} {f : Failure} {e : Draft} (hbefore : before = "enum")
      (hafter : after ≠ "enum") (hf : stops f) (he : e.declaration.name = declared.name) :
      Corresponds declared before after stops p (.error f, e)

namespace Corresponds

variable {declared : Declaration} {stops : Failure → Prop} {α β : Type} {d e : Draft}

theorem bind {x y : Link α} {f g : α → Link β}
    (hxy : Corresponds declared before after stops (exec x d) (exec y e))
    (hfg : ∀ a u v, exec x d = (.ok a, u) → u.Respells declared before after v →
      Corresponds declared before after stops (exec (f a) u) (exec (g a) v)) :
    Corresponds declared before after stops (exec (x >>= f) d) (exec (y >>= g) e) := by
  rw [exec_bind, exec_bind]
  rcases hx : exec x d with ⟨r, u⟩
  rcases hy : exec y e with ⟨r', v⟩
  rw [hx, hy] at hxy
  cases hxy with
  | same h =>
      cases r with
      | error f => exact .same h
      | ok a => exact hfg a u v hx h
  | stopped hbefore hafter hf he => exact .stopped hbefore hafter hf he

end Corresponds

def Follows (declared : Declaration) (before after : String) (stops : Failure → Prop) {α : Type}
    (x y : Link α) : Prop :=
  ∀ d e, d.Respells declared before after e →
    Corresponds declared before after stops (exec x d) (exec y e)

namespace Follows

variable {declared : Declaration} {stops : Failure → Prop} {α β : Type}

theorem pure (a : α) :
    Follows declared before after stops (Pure.pure a : Link α) (Pure.pure a) :=
  fun _ _ h => .same h

theorem throw (f : Failure) :
    Follows declared before after stops (MonadExcept.throw f : Link α) (MonadExcept.throw f) :=
  fun _ _ h => .same h

theorem bind {x y : Link α} {f g : α → Link β} (hxy : Follows declared before after stops x y)
    (hfg : ∀ a, Follows declared before after stops (f a) (g a)) :
    Follows declared before after stops (x >>= f) (y >>= g) :=
  fun d e h => (hxy d e h).bind fun a _ _ _ => hfg a _ _

theorem forM₂ {R : α → β → Prop} {f : α → Link Unit} {g : β → Link Unit} {l : List α} {l' : List β}
    (hl : List.Forall₂ R l l')
    (hfg : ∀ a b, R a b → Follows declared before after stops (f a) (g b)) :
    Follows declared before after stops (l.forM f) (l'.forM g) := by
  induction hl with
  | nil => exact .pure _
  | cons hab _ ih => exact .bind (hfg _ _ hab) fun _ => ih

theorem forM {f g : α → Link Unit} {l : List α}
    (hfg : ∀ a ∈ l, Follows declared before after stops (f a) (g a)) :
    Follows declared before after stops (l.forM f) (l.forM g) := by
  refine .forM₂ (R := fun a b => a = b ∧ a ∈ l) (List.forall₂_same.mpr fun a ha => ⟨rfl, ha⟩) ?_
  rintro a _ ⟨rfl, ha⟩
  exact hfg a ha

theorem hasField (name : Value) :
    Follows declared before after stops (Link.hasField name) (Link.hasField name) := by
  intro d e h
  rw [Link.exec_hasField, Link.exec_hasField, h.knows]
  exact .same h

theorem getField_bind {f g : FieldDeclaration → Link α} (name : String)
    (hfg : ∀ a b, a.Respells before after b → Follows declared before after stops (f a) (g b)) :
    Follows declared before after stops (Link.getField name >>= f) (Link.getField name >>= g) := by
  intro d e h
  rcases h.field? name with ⟨hd, he⟩ | ⟨a, b, hd, he, hab⟩
  · rw [exec_bind_of_error (exec_getField_of_none hd),
      exec_bind_of_error (exec_getField_of_none he)]
    exact .same h
  · rw [exec_bind_of_ok (Link.exec_getField hd), exec_bind_of_ok (Link.exec_getField he)]
    exact hfg a b hab d e h

theorem addField {f g : FieldDeclaration} (hfg : f.Respells before after g) :
    Follows declared before after stops (Link.addField f) (Link.addField g) := by
  intro d e h
  rw [Link.exec_addField, Link.exec_addField, hfg.name_eq, h.hasField]
  split
  · exact .same h
  · exact .same (h.added hfg)

theorem relax (name : String) :
    Follows declared before after stops
      (Link.updateField name fun f => { f with optional := true, given := "optional" :: f.given })
      (Link.updateField name fun f =>
        { f with optional := true, given := "optional" :: f.given }) := by
  intro d e h
  by_cases hname : d.hasField name = true
  · rw [Link.exec_relax hname, Link.exec_relax ((h.hasField name).trans hname)]
    exact .same (h.relaxed name)
  · unfold Link.updateField
    rw [exec_bind_of_ok (exec_get d), exec_bind_of_ok (exec_get e), h.hasField, if_neg hname,
      if_neg hname]
    exact .same h

theorem keyBy (name : Value) :
    Follows declared before after stops (Link.keyBy name) (Link.keyBy name) :=
  fun _ _ h => .same { h with key := rfl }

end Follows

end Link

/-! ### Features -/

namespace Feature

open Link

variable {declared : Declaration} {stops : Failure → Prop}

theorem follows_addDescribed (options : Value) :
    Follows declared before after stops (addDescribed options) (addDescribed options) := by
  unfold addDescribed
  split
  · exact .bind (.addField (.refl _)) fun _ => .pure _
  · exact .throw _

theorem follows_addFlag (options : Value) :
    Follows declared before after stops (Deletion.addFlag options) (Deletion.addFlag options) := by
  unfold Deletion.addFlag
  dsimp only
  split
  · exact .addField (.refl _)
  · refine .bind (.hasField _) fun found => ?_
    split
    · exact .pure _
    · exact .throw _

theorem follows_addCopies (options : Value) :
    Follows declared before after stops (Localization.addCopies options)
      (Localization.addCopies options) := by
  unfold Localization.addCopies
  refine .bind (.hasField _) fun found => ?_
  split
  · refine .getField_bind _ fun f g hfg => ?_
    have hcopies : ∀ suffix : Value, Follows declared before after stops
        (Link.addField { f with name := f.name ++ "_" ++ suffix.plain })
        (Link.addField { g with name := g.name ++ "_" ++ suffix.plain }) := by
      intro suffix
      rw [hfg.name_eq]
      exact .addField (hfg.renamed _)
    split
    · exact .bind (.throw _) fun _ => .forM fun suffix _ => hcopies suffix
    · exact .forM fun suffix _ => hcopies suffix
  · exact .throw _

theorem follows_makeOptional (names : List Value) :
    Follows declared before after stops (Nullability.makeOptional names)
      (Nullability.makeOptional names) := by
  induction names with
  | nil => exact .pure _
  | cons name rest ih =>
      refine .bind (.hasField _) fun found => ?_
      split
      · exact .bind (.relax _) fun _ => ih
      · exact .throw _

theorem follows_addStamps (hspelled : after = "enum" → before = "enum") (options : Value) :
    Follows declared before after (· = .feature .notAnEnum) (StateTracking.addStamps options)
      (StateTracking.addStamps options) := by
  unfold StateTracking.addStamps
  refine .bind (.hasField _) fun found => ?_
  split
  · refine .getField_bind _ fun f g hfg => ?_
    rcases hfg.eq_or_ne with rfl | ⟨htype, hne, rfl⟩
    · split
      · exact .forM fun _ _ => .addField (.refl _)
      · exact .throw _
    · have hafter : after ≠ "enum" := fun h => hne (h.trans (hspelled h).symm)
      split
      · -- only the first run finds the spelling that it looks for
        rename_i henum _
        split
        · exact absurd ‹after = "enum"› hafter
        · exact fun d e h => .stopped (htype ▸ henum) hafter rfl h.right_name
      · split
        · exact absurd ‹after = "enum"› hafter
        · exact .throw _
  · exact .throw _

end Feature

/-! ### Linking -/

namespace Linking

open Link

variable {catalogue : Catalogue} {declared : Declaration} {stops : Failure → Prop} {α : Type}

theorem follows_fail (fault : DeclarationFault) :
    Follows declared before after stops (fail fault : Link α) (fail fault) := by
  intro d e h
  unfold fail
  rw [exec_bind_of_ok (exec_get d), exec_bind_of_ok (exec_get e), h.right_name, h.left]
  exact .same h

theorem follows_explain {stops' : Failure → Prop} {x y : Link α}
    {retell : String → DeclarationFault} (hxy : Follows declared before after stops x y)
    (hstops : ∀ f, stops f →
      f.kind = .badValue ∧ stops' (.declaration ⟨some declared.name, retell f.text⟩)) :
    Follows declared before after stops' (explain x retell) (explain y retell) := by
  intro d e h
  have hrun := hxy d e h
  unfold explain
  rw [exec_tryCatch, exec_tryCatch]
  rcases hx : exec x d with ⟨r, u⟩
  rcases hy : exec y e with ⟨r', v⟩
  rw [hx, hy] at hrun
  cases hrun with
  | same h =>
      cases r with
      | ok a => exact .same h
      | error f =>
          dsimp only
          split
          · exact follows_fail _ u v h
          · exact .same h
  | @stopped _ f _ hbefore hafter hf he =>
      obtain ⟨hkind, hf⟩ := hstops f hf
      dsimp only
      rw [if_pos hkind, fail, exec_bind_of_ok (exec_get v), he]
      exact .stopped hbefore hafter hf he

theorem follows_explain_of_unstopped {x y : Link α} {retell : String → DeclarationFault}
    (hxy : Follows declared before after (fun _ => False) x y) :
    Follows declared before after stops (explain x retell) (explain y retell) :=
  follows_explain hxy nofun

def untracked (name : String) : Failure :=
  .declaration ⟨some name,
    .phaseFailed "state_tracking" "after_fields" (Failure.feature .notAnEnum).text⟩

def Stops (declared : Declaration) (f : Failure) : Prop :=
  f = untracked declared.name ∧ ∃ u ∈ declared.features, u.name = "state_tracking"

theorem follows_runPhase (hspelled : after = "enum" → before = "enum") {uses : List Use}
    (huses : ∀ u ∈ uses, u.1 ∈ Feature.builtin ∧ u.1.name = u.2.name ∧
      ∃ f ∈ declared.features, f.name = u.2.name) (phase : Phase) :
    Follows declared before after (Stops declared) (runPhase phase uses) (runPhase phase uses) := by
  refine .forM fun u hu => ?_
  obtain ⟨f, use⟩ := u
  obtain ⟨hf, hname, hdeclared⟩ := huses _ hu
  dsimp only at hf hname hdeclared ⊢
  split
  · rename_i callback hcallback
    have hphase : (phase, callback) ∈ f.phases := Feature.mem_phases_of_callback? hcallback
    simp only [Feature.builtin, List.mem_cons, List.not_mem_nil, or_false] at hf
    rcases hf with rfl | rfl | rfl | rfl | rfl | rfl | rfl
    all_goals
      obtain ⟨rfl, rfl⟩ := Prod.mk.inj (List.mem_singleton.mp hphase)
    · refine follows_explain_of_unstopped ?_
      exact .bind (Feature.follows_addDescribed _) fun _ => .keyBy _
    · refine follows_explain_of_unstopped ?_
      exact .bind (Feature.follows_addDescribed _) fun _ => .pure _
    · refine follows_explain_of_unstopped ?_
      exact .bind (Feature.follows_addDescribed _) fun _ => .pure _
    · exact follows_explain_of_unstopped (Feature.follows_addFlag _)
    · exact follows_explain_of_unstopped (Feature.follows_makeOptional _)
    · refine follows_explain (Feature.follows_addStamps hspelled _) ?_
      rintro _ rfl
      rw [← hname] at hdeclared ⊢
      exact ⟨rfl, rfl, hdeclared⟩
    · exact follows_explain_of_unstopped (Feature.follows_addCopies _)
  · exact .pure _

theorem follows_resolveFeature (seen : List String) (f : FeatureDeclaration) :
    Follows declared before after stops (resolveFeature catalogue seen f)
      (resolveFeature catalogue seen f) := by
  unfold resolveFeature
  split
  · exact follows_fail _
  · rename_i feature _
    have hoptions : Follows declared before after stops
        (explain (ExceptT.mk (pure (feature.normalize f.options))) (.badOptions f.name))
        (explain (ExceptT.mk (pure (feature.normalize f.options))) (.badOptions f.name)) :=
      follows_explain_of_unstopped fun _ _ h => .same h
    dsimp only
    split
    · exact .bind (follows_fail _) fun _ => .bind hoptions fun _ => .pure _
    · exact .bind hoptions fun _ => .pure _

theorem follows_resolveFeatures (seen : List String) (fs : List FeatureDeclaration) :
    Follows declared before after stops (resolveFeatures catalogue seen fs)
      (resolveFeatures catalogue seen fs) := by
  induction fs generalizing seen with
  | nil => exact .pure _
  | cons f fs ih =>
      rw [resolveFeatures]
      exact .bind (follows_resolveFeature seen f) fun _ => .bind (ih _) fun _ => .pure _

theorem follows_addDeclared {fs gs : List FieldDeclaration}
    (h : List.Forall₂ (FieldDeclaration.Respells before after) fs gs) :
    Follows declared before after stops (addDeclared fs) (addDeclared gs) := by
  refine .forM₂ h fun f g hfg => ?_
  rw [hfg.name_eq]
  exact follows_explain_of_unstopped (.addField hfg)

theorem describe_eq {f g : FieldDeclaration} (h : f.Respells before after g) {type : BaseType}
    (hbefore : BaseType.named? before = some type) (hafter : BaseType.named? after = some type) :
    describe catalogue g = describe catalogue f := by
  rcases h with rfl | ⟨rfl, rfl⟩
  · rfl
  · have hfault : fieldFault? catalogue { f with type := after } = fieldFault? catalogue f := by
      simp only [fieldFault?, hbefore, hafter]
    have hlinked : linkedField { f with type := after } = linkedField f := by
      simp only [linkedField, hbefore, hafter]
      rfl
    rw [describe, describe, hfault, hlinked]

theorem follows_mapM_describe (fs : List FieldDeclaration) :
    Follows declared before after stops (fs.mapM (describe catalogue))
      (fs.mapM (describe catalogue)) := by
  induction fs with
  | nil => exact .pure _
  | cons f fs ih =>
      rw [List.mapM_cons]
      refine .bind ?_ fun _ => .bind ih fun _ => .pure _
      unfold describe
      split
      · exact follows_fail _
      · exact .pure _

theorem mapM_describe_eq {fs gs : List FieldDeclaration}
    (h : List.Forall₂ (FieldDeclaration.Respells before after) fs gs) {type : BaseType}
    (hbefore : BaseType.named? before = some type) (hafter : BaseType.named? after = some type) :
    gs.mapM (describe catalogue) = fs.mapM (describe catalogue) := by
  induction h with
  | nil => rfl
  | cons hfg _ ih => rw [List.mapM_cons, List.mapM_cons, describe_eq hfg hbefore hafter, ih]

theorem follows_resolveKeys :
    Follows declared before after stops resolveKeys resolveKeys := by
  intro d e h
  obtain ⟨fields, hright⟩ := h.right
  have hkey : keyOf e = keyOf d := by
    unfold keyOf
    rw [hright, h.left, h.key]
  have hindexes : e.declaration.indexes = d.declaration.indexes := by
    rw [hright, h.left]
  have hfields : e.hasField = d.hasField := funext h.hasField
  unfold resolveKeys
  rw [exec_bind_of_ok (exec_get d), exec_bind_of_ok (exec_get e), hkey, hindexes, hfields]
  split
  · exact .same h
  · dsimp only
    split
    · exact follows_fail _ d e h
    · exact .same h

theorem corresponds_build {fields : List FieldDeclaration}
    (hfeatures : catalogue.features = Feature.builtin)
    (hfields : List.Forall₂ (FieldDeclaration.Respells before after) declared.fields fields)
    (hspelled : after = "enum" → before = "enum") {type : BaseType}
    (hbefore : BaseType.named? before = some type) (hafter : BaseType.named? after = some type) :
    Corresponds declared before after (Stops declared)
      (exec (build catalogue) { declaration := declared })
      (exec (build catalogue) { declaration := { declared with fields } }) := by
  unfold build
  rw [exec_bind_of_ok (exec_get _), exec_bind_of_ok (exec_get _)]
  simp only [Bool.false_eq_true, if_false]
  rw [exec_bind_of_ok (exec_set _ _), exec_bind_of_ok (exec_set _ _)]
  have hstart : Draft.Respells declared before after { declaration := declared, linked := true }
      { declaration := { declared with fields }, linked := true } :=
    ⟨rfl, ⟨fields, rfl⟩, .nil, rfl⟩
  refine (follows_resolveFeatures _ _ _ _ hstart).bind fun uses u v huses h => ?_
  obtain ⟨-, hall, -⟩ := resolveFeatures_ok huses
  have hdeclared : ∀ u ∈ uses, u.1 ∈ Feature.builtin ∧ u.1.name = u.2.name ∧
      ∃ f ∈ declared.features, f.name = u.2.name := by
    intro u hu
    obtain ⟨f, hf, hresolves⟩ := exists_of_mem_forall₂ hall hu
    exact ⟨hfeatures ▸ hresolves.mem.1, hresolves.mem.2, f, hf, hresolves.name.symm⟩
  have hphase := follows_runPhase hspelled hdeclared
  refine (hphase .beforeFields u v h).bind fun _ _ _ _ h => ?_
  refine (follows_addDeclared hfields _ _ h).bind fun _ _ _ _ h => ?_
  refine (hphase .afterFields _ _ h).bind fun _ _ _ _ h => ?_
  refine (hphase .finalize _ _ h).bind fun _ d e _ h => ?_
  rw [exec_bind_of_ok (exec_get d), exec_bind_of_ok (exec_get e),
    mapM_describe_eq h.fields hbefore hafter]
  refine (follows_mapM_describe _ d e h).bind fun _ _ _ _ h => ?_
  exact (follows_resolveKeys _ _ h).bind fun _ _ _ _ h => .same h

end Linking

open Linking

theorem Declaration.link_of_respells {catalogue : Catalogue} {d : Declaration}
    {fields : List FieldDeclaration} (hfeatures : catalogue.features = Feature.builtin)
    (hfields : List.Forall₂ (FieldDeclaration.Respells before after) d.fields fields)
    (hspelled : after = "enum" → before = "enum") {type : BaseType}
    (hbefore : BaseType.named? before = some type) (hafter : BaseType.named? after = some type) :
    { d with fields }.link catalogue = d.link catalogue ∨
      before = "enum" ∧ after ≠ "enum" ∧ (∃ u ∈ d.features, u.name = "state_tracking") ∧
        { d with fields }.link catalogue = .error (untracked d.name) := by
  have hbuild := corresponds_build hfeatures hfields hspelled hbefore hafter
  change (exec (build catalogue) _).1 = (exec (build catalogue) _).1 ∨
    _ ∧ _ ∧ _ ∧ (exec (build catalogue) _).1 = _
  generalize exec (build catalogue) { declaration := d } = p at *
  generalize exec (build catalogue) { declaration := { d with fields } } = q at *
  cases hbuild with
  | same _ => exact .inl rfl
  | stopped henum hother hf _ => exact .inr ⟨henum, hother, hf.2, hf.1 ▸ rfl⟩

/-- A declaration and the one with the type of a field written in another way are linked alike,
unless states are tracked and one spelling is `enum` and the other is not; then they are linked
alike, or the one that is not written as `enum` is refused. -/
theorem Declaration.link_respelled {catalogue : Catalogue}
    (hfeatures : catalogue.features = Feature.builtin) {d d' : Declaration}
    {front back : List FieldDeclaration} {f : FieldDeclaration} {spelling : String}
    {type : BaseType} (hd : d.fields = front ++ f :: back)
    (hd' : d' = { d with fields := front ++ { f with type := spelling } :: back })
    (hf : BaseType.named? f.type = some type)
    (hspelling : BaseType.named? spelling = some type) :
    d'.link catalogue = d.link catalogue ∨
      (∃ u ∈ d.features, u.name = "state_tracking") ∧
        (f.type = "enum" ∧ spelling ≠ "enum" ∧ d'.link catalogue = .error (untracked d.name) ∨
          f.type ≠ "enum" ∧ spelling = "enum" ∧ d.link catalogue = .error (untracked d.name)) := by
  have hsame (fs : List FieldDeclaration) (old new : String) :
      List.Forall₂ (FieldDeclaration.Respells old new) fs fs :=
    List.forall₂_same.mpr fun _ _ => .refl _
  by_cases henum : spelling = "enum" ∧ f.type ≠ "enum"
  · -- the tracking of states takes the new spelling, so it is the old one that may be refused
    have hback : d = { d' with fields := d.fields } := by rw [hd']
    have hfields : List.Forall₂ (FieldDeclaration.Respells spelling f.type) d'.fields d.fields := by
      rw [hd', hd]
      exact List.rel_append (hsame front _ _) (.cons (.inr ⟨rfl, rfl⟩) (hsame back _ _))
    have hlink := Declaration.link_of_respells hfeatures hfields (fun h => absurd h henum.2)
      hspelling hf
    rw [← hback] at hlink
    rcases hlink with h | ⟨hold, hnew, hfeature, h⟩
    · exact .inl h.symm
    · rw [hd'] at hfeature h
      exact .inr ⟨hfeature, .inr ⟨hnew, hold, h⟩⟩
  · have hfields : List.Forall₂ (FieldDeclaration.Respells f.type spelling) d.fields
        (front ++ { f with type := spelling } :: back) := by
      rw [hd]
      exact List.rel_append (hsame front _ _) (.cons (.inr ⟨rfl, rfl⟩) (hsame back _ _))
    have hlink := Declaration.link_of_respells hfeatures hfields
      (fun h => by_contra fun hne => henum ⟨h, hne⟩) hf hspelling
    rw [← hd'] at hlink
    rcases hlink with h | ⟨hold, hnew, hfeature, h⟩
    · exact .inl h
    · exact .inr ⟨hfeature, .inl ⟨hold, hnew, h⟩⟩

def trackedTask (spelling : String) : Declaration where
  name := "task"
  fields := [{ name := "title" },
    { name := "state", type := spelling, values := some ["open", "done"] }]
  features := [{ name := "state_tracking", options := .text "state" }]

theorem trackedTask_respelled :
    BaseType.named? "Enum" = BaseType.named? "enum" ∧
    (∃ e, (trackedTask "enum").link ⟨Feature.builtin, Generator.builtin⟩ = .ok e) ∧
    (trackedTask "Enum").link ⟨Feature.builtin, Generator.builtin⟩ = .error (untracked "task") := by
  let catalogue : Catalogue := ⟨Feature.builtin, Generator.builtin⟩
  have hfeatures : catalogue.features = Feature.builtin := rfl
  let state : FieldDeclaration := { name := "state", type := "enum", values := ["open", "done"] }
  have hd : (trackedTask "enum").fields = [{ name := "title" }] ++ state :: [] := rfl
  have hd' : trackedTask "Enum" = { trackedTask "enum" with
      fields := [{ name := "title" }] ++ { state with type := "Enum" } :: [] } := rfl
  have henum : BaseType.named? state.type = some .enum := by decide +kernel
  have hother : BaseType.named? "Enum" = some .enum := by decide +kernel
  have hlink := Declaration.link_respelled hfeatures hd hd' henum hother
  have hok : ((trackedTask "enum").link catalogue).isOk = true := by decide +kernel
  have hrefused : ((trackedTask "Enum").link catalogue).isOk = false := by decide +kernel
  refine ⟨hother.trans henum.symm, ?_, ?_⟩
  · cases htracked : (trackedTask "enum").link catalogue with
    | ok e => exact ⟨e, rfl⟩
    | error f =>
        rw [htracked] at hok
        cases hok
  · rcases hlink with h | ⟨-, ⟨-, -, h⟩ | ⟨h, -⟩⟩
    · rw [h, hok] at hrefused
      cases hrefused
    · exact h
    · exact absurd rfl h

end FieldPipeline
