import FieldPipeline.Proofs.Declaration.Reading
import FieldPipeline.Proofs.Linking.Keying
import FieldPipeline.Proofs.Linking.Options

/-!
How linking fails.  What is wrong with a declaration is told as a fault of the declaration, except
for options of features in which there is a value of a type that the feature cannot use.
-/

namespace FieldPipeline

/-- Whether the options of a feature are such that linking comes upon a value of a wrong type, in a
declaration that has a key or none. -/
inductive FeatureDeclaration.Unfit (key : Option KeyDeclaration) (f : FeatureDeclaration) : Prop
  /-- Names are to be listed, and the options have no members. -/
  | unlisted (named : f.name = "at_least_one_not_null") (given : f.options.isTrue = true)
      (none : f.options.members? = none)
  | listed (named : f.name = "at_least_one_not_null") {names : List Value}
      (members : f.options.members? = some names) {name : Value} (mem : name ∈ names)
      (unhashable : name.isHashable = false)
  /-- A member of the field stands under a key that is no text. -/
  | described (named : f.name ∈ ["auto_id", "create_timestamp", "update_timestamp"])
      {es : List (Value × Value)} (options : f.options = .dict es) {e : Value × Value}
      (mem : e ∈ es) (key : e.1.isText = false)
  | named (named : f.name ∈ ["state_tracking", "i18n"]) {name : Value}
      (field : f.options.under? "field" = some name) (given : name.isTrue = true)
      (unhashable : name.isHashable = false)
  | marked (named : f.name = "logical_deletion") {name mark : Value}
      (options : f.options = .dict [(name, mark)]) (unhashable : name.isHashable = false)
  | suffixed (named : f.name = "i18n") {es : List (Value × Value)}
      (locales : f.options.under? "locales" = some (.dict es)) {e : Value × Value} (mem : e ∈ es)
      (unhashable : e.2.isHashable = false)
  /-- The key of the entity is the name of the field, which is given by bytes. -/
  | keyed (named : f.name = "auto_id") (none : key = none) {options : Value}
      (normal : Feature.autoId.normalize f.options = .ok options) {bs : List UInt8}
      (name : options.under? "name" = some (.bytes bs))

/-- Whether a failure tells what is wrong with a declaration, or is that of a wrong type, which is
left as it is. -/
def Failure.Tells (d : Declaration) (unfit : Prop) (e : Failure) : Prop :=
  (∃ fault, e = .declaration ⟨some d.name, fault⟩) ∨ e = .fault .wrongType ∧ unfit

theorem Failure.Tells.imp {d : Declaration} {p q : Prop} {e : Failure} (h : e.Tells d p)
    (hpq : p → q) : e.Tells d q :=
  h.imp_right fun hwrong => ⟨hwrong.1, hpq hwrong.2⟩

namespace Linking

open Link

variable {catalogue : Catalogue} {d : Declaration} {key : Option KeyDeclaration}
  {f : FeatureDeclaration} {u : Use} {s t : Draft} {e : Failure}

/-! ### What a use runs into -/

theorem normalize_error {feature : Feature} (hfeature : feature ∈ Feature.builtin)
    (hname : feature.name = f.name) (h : feature.normalize f.options = .error e) :
    e.kind = .badValue ∨ e = .fault .wrongType ∧ f.Unfit key := by
  simp only [Feature.builtin, List.mem_cons, List.not_mem_nil, or_false] at hfeature
  rcases hfeature with rfl | rfl | rfl | rfl | rfl | rfl | rfl
  · exact .inl (Feature.fieldOptions_error h)
  · exact .inl (Feature.fieldOptions_error h)
  · exact .inl (Feature.fieldOptions_error h)
  · exact .inl (Feature.Deletion.normalize_error h)
  · refine (Feature.Nullability.normalize_error h).imp_right ?_
    rintro ⟨hwrong, hgiven, hnone⟩
    exact ⟨hwrong, .unlisted hname.symm hgiven hnone⟩
  · exact .inl (Feature.StateTracking.normalize_error h)
  · exact .inl (Feature.Localization.normalize_error h)

theorem unfit_of_describes {usual : Record} {options : Value}
    (hname : f.name ∈ ["auto_id", "create_timestamp", "update_timestamp"])
    (hnormal : Feature.fieldOptions usual f.options = .ok options)
    (h : Record.ofValue? options = none) : f.Unfit key := by
  have hkeys : ¬∀ es, f.options = .dict es → ∀ e ∈ es, e.1.isText = true := by
    rw [← Feature.ofValue?_fieldOptions hnormal, h]
    simp
  push Not at hkeys
  obtain ⟨es, hoptions, entry, hentry, hkey⟩ := hkeys
  exact .described hname hoptions hentry (by simpa using hkey)

theorem describing_error {usual : Record} {options : Value} {x : Link Unit}
    (hname : f.name ∈ ["auto_id", "create_timestamp", "update_timestamp"])
    (hnormal : Feature.fieldOptions usual f.options = .ok options)
    (hx : ∀ s t, exec x s ≠ (.error e, t))
    (h : exec (Feature.addDescribed options >>= fun _ => x) s = (.error e, t)) :
    e.kind = .badValue ∨ e = .fault .wrongType ∧ f.Unfit key := by
  rcases exec_bind_eq_error.mp h with h | ⟨_, s₁, _, h⟩
  · refine (Feature.addDescribed_error h).imp_right ?_
    rintro ⟨hwrong, hnone⟩
    exact ⟨hwrong, unfit_of_describes hname hnormal hnone⟩
  · exact absurd h (hx s₁ t)

theorem callback_error (hresolves : Resolves catalogue f u) (hu : u.1 ∈ Feature.builtin)
    {phase : Phase} {callback : Value → Link Unit} (hcallback : u.1.callback? phase = some callback)
    (h : exec (callback u.2.options) s = (.error e, t)) :
    e.kind = .badValue ∨ e = .fault .wrongType ∧ f.Unfit key := by
  obtain ⟨feature, use⟩ := u
  have hname : feature.name = f.name := hresolves.mem.2.trans hresolves.name
  have hnormal : feature.normalize f.options = .ok use.options := hresolves.normal
  have hmem : (phase, callback) ∈ feature.phases := Feature.mem_phases_of_callback? hcallback
  simp only [Feature.builtin, List.mem_cons, List.not_mem_nil, or_false] at hu
  rcases hu with rfl | rfl | rfl | rfl | rfl | rfl | rfl
  all_goals
    obtain ⟨rfl, rfl⟩ := Prod.mk.inj (List.mem_singleton.mp hmem)
    dsimp only at h
  · exact describing_error (by simp [← hname, Feature.autoId]) hnormal
      (fun _ _ h => by cases h) h
  · exact describing_error (by simp [← hname, Feature.createTimestamp]) hnormal
      (fun _ _ h => by cases h) h
  · exact describing_error (by simp [← hname, Feature.updateTimestamp]) hnormal
      (fun _ _ h => by cases h) h
  · refine (Feature.Deletion.addFlag_error h).imp_right ?_
    rintro ⟨hwrong, hold, hhash⟩
    refine ⟨hwrong, ?_⟩
    rcases Feature.Deletion.normalize_ok hnormal with hnew | ⟨name, value, hoptions, _, hmark⟩
    · rw [hold] at hnew
      cases hnew
    · exact .marked hname.symm hoptions (hmark ▸ hhash)
  · refine (Feature.Nullability.makeOptional_error h).imp_right ?_
    rintro ⟨hwrong, name, hmem, hhash⟩
    refine ⟨hwrong, ?_⟩
    rcases Feature.Nullability.normalize_ok hnormal with ⟨s, _, hnames⟩ | hmembers
    · rw [hnames, List.mem_singleton] at hmem
      subst hmem
      cases hhash
    · exact .listed hname.symm hmembers hmem hhash
  · refine (Feature.StateTracking.addStamps_error h).imp_right ?_
    rintro ⟨hwrong, hhash⟩
    refine ⟨hwrong, ?_⟩
    rcases Feature.StateTracking.normalize_ok hnormal with ⟨s, _, htracked⟩ | ⟨hfield, hgiven⟩
    · rw [htracked] at hhash
      cases hhash
    · exact .named (by simp [← hname, Feature.stateTracking]) hfield hgiven hhash
  · obtain ⟨hfield, hgiven, es, hlocales, hstored⟩ := Feature.Localization.normalize_ok hnormal
    refine (Feature.Localization.addCopies_error h).imp_right ?_
    rintro ⟨hwrong, hhash⟩
    refine ⟨hwrong, ?_⟩
    rcases hhash with hhash | hsuffix
    · exact .named (by simp [← hname, Feature.localization]) hfield hgiven hhash
    · have hes : ¬∀ e ∈ es, e.2.isHashable = true := by
        rw [← Feature.Localization.forall_suffixes hstored]
        obtain ⟨suffix, hmem, hhash⟩ := hsuffix
        exact fun hall => by simp [hall suffix hmem] at hhash
      push Not at hes
      obtain ⟨entry, hentry, hhash⟩ := hes
      exact .suffixed hname.symm hlocales hentry (by simpa using hhash)

/-! ### What linking tells -/

theorem fail_error {α : Type} {fault : DeclarationFault} {unfit : Prop} (hs : s.declaration = d)
    (h : exec (fail fault : Link α) s = (.error e, t)) : e.Tells d unfit := by
  unfold fail at h
  rw [exec_bind_of_ok (exec_get s)] at h
  cases h
  exact .inl ⟨fault, by rw [hs]⟩

theorem explain_error {α : Type} {x : Link α} {retell : String → DeclarationFault} {unfit : Prop}
    (hs : s.declaration = d) (hkeeps : Keeps (·.declaration = d) x)
    (hx : ∀ {e t}, exec x s = (.error e, t) → e.kind = .badValue ∨ e = .fault .wrongType ∧ unfit)
    (h : exec (explain x retell) s = (.error e, t)) : e.Tells d unfit := by
  unfold explain at h
  rw [exec_tryCatch] at h
  have hafter := hkeeps s hs
  rcases hrun : exec x s with ⟨e' | a, u⟩
  · rw [hrun] at h hafter
    dsimp only at h
    split at h
    · exact fail_error hafter h
    · rename_i hkind
      cases h
      exact .inr ((hx hrun).resolve_left hkind)
  · rw [hrun] at h
    cases h

theorem resolveFeature_error {seen : List String} (hfeatures : catalogue.features = Feature.builtin)
    (hs : s.declaration = d) (h : exec (resolveFeature catalogue seen f) s = (.error e, t)) :
    e.Tells d (f.Unfit key) := by
  unfold resolveFeature at h
  split at h
  · exact fail_error hs h
  · rename_i feature hfind
    dsimp only at h
    split at h
    · exact fail_error hs h
    · rw [exec_bind_eq_error] at h
      rcases h with h | ⟨_, _, _, h⟩
      · obtain ⟨hmem, hname⟩ := Feature.mem_of_find? hfind
        rw [hfeatures] at hmem
        have hkeeps : Keeps (·.declaration = d)
            (ExceptT.mk (pure (feature.normalize f.options)) : Link Value) := fun _ hd => hd
        exact explain_error hs hkeeps
          (fun hnormal => normalize_error hmem hname (congrArg Prod.fst hnormal)) h
      · cases h

theorem resolveFeatures_error {seen : List String} {fs : List FeatureDeclaration}
    (hfeatures : catalogue.features = Feature.builtin) (hs : s.declaration = d)
    (h : exec (resolveFeatures catalogue seen fs) s = (.error e, t)) :
    e.Tells d (∃ f ∈ fs, f.Unfit key) := by
  induction fs generalizing seen s with
  | nil => cases h
  | cons f fs ih =>
      rw [resolveFeatures, exec_bind_eq_error] at h
      rcases h with h | ⟨u, s₁, hfirst, h⟩
      · exact (resolveFeature_error hfeatures hs h).imp fun hunfit => ⟨f, by simp, hunfit⟩
      · rw [exec_bind_eq_error] at h
        rcases h with h | ⟨_, _, _, h⟩
        · obtain ⟨rfl, _, _⟩ := resolveFeature_ok hfirst
          refine (ih hs h).imp ?_
          rintro ⟨g, hg, hunfit⟩
          exact ⟨g, List.mem_cons_of_mem _ hg, hunfit⟩
        · cases h

theorem runPhase_error {fs : List FeatureDeclaration} {uses : List Use} {phase : Phase}
    (hfeatures : catalogue.features = Feature.builtin)
    (hall : List.Forall₂ (Resolves catalogue) fs uses) (hs : s.declaration = d)
    (h : exec (runPhase phase uses) s = (.error e, t)) : e.Tells d (∃ f ∈ fs, f.Unfit key) := by
  have hbuiltin : ∀ u ∈ uses, u.1 ∈ Feature.builtin := fun u hu => by
    obtain ⟨f, _, hresolves⟩ := exists_of_mem_forall₂ hall hu
    exact hfeatures ▸ hresolves.mem.1
  obtain ⟨before, u, after, s₁, rfl, hbefore, h⟩ := exec_forM_error_split h
  have hearlier : ∀ v ∈ before, v.1 ∈ Feature.builtin := fun v hv => hbuiltin v (by simp [hv])
  have hs₁ : s₁.declaration = d := by
    have hkept := keeps_runPhase (Draft.stable_declaration d) hearlier phase s hs
    rwa [show exec (runPhase phase before) s = _ from hbefore] at hkept
  obtain ⟨f, hf, hresolves⟩ := exists_of_mem_forall₂ hall (b := u) (by simp)
  have hu := hbuiltin u (by simp)
  obtain ⟨feature, use⟩ := u
  dsimp only at h
  split at h
  · rename_i callback hcallback
    have hkeeps := Feature.keeps_of_mem_builtin (Draft.stable_declaration d) hu hcallback
      use.options
    exact (explain_error hs₁ hkeeps (callback_error hresolves hu hcallback) h).imp
      fun hunfit => ⟨f, hf, hunfit⟩
  · cases h

theorem addDeclared_error {fields : List FieldDeclaration} {unfit : Prop}
    (hs : s.declaration = d) (h : exec (addDeclared fields) s = (.error e, t)) :
    e.Tells d unfit := by
  obtain ⟨before, f, after, s₁, rfl, hbefore, h⟩ := exec_forM_error_split h
  have hs₁ : s₁.declaration = d := by
    have hkept := keeps_addDeclared (Draft.stable_declaration d) before s hs
    rwa [show exec (addDeclared before) s = _ from hbefore] at hkept
  exact explain_error hs₁ (.addField (Draft.stable_declaration d) f)
    (fun hadd => .inl (exec_addField_error hadd)) h

theorem mapM_describe_error {fields : List FieldDeclaration} {unfit : Prop}
    (hs : s.declaration = d) (h : exec (fields.mapM (describe catalogue)) s = (.error e, t)) :
    e.Tells d unfit := by
  induction fields generalizing s with
  | nil => cases h
  | cons f fields ih =>
      rw [List.mapM_cons, exec_bind_eq_error] at h
      rcases h with h | ⟨g, s₁, hfirst, h⟩
      · unfold describe at h
        split at h
        · exact fail_error hs h
        · cases h
      · rw [exec_bind_eq_error] at h
        rcases h with h | ⟨_, _, _, h⟩
        · obtain ⟨rfl, _⟩ := describe_ok hfirst
          exact ih hs h
        · cases h

theorem mapM_keyName_error {names : List Value} {fault : Fault}
    (h : names.mapM keyName = .error fault) :
    fault = .wrongType ∧ ∃ v ∈ names, v.isText = false := by
  induction names with
  | nil => cases h
  | cons v names ih =>
      rw [List.mapM_cons, bind_eq_error] at h
      rcases h with h | ⟨_, _, h⟩
      · cases v <;> cases h
        all_goals exact ⟨rfl, _, List.mem_cons_self, rfl⟩
      · rw [bind_eq_error] at h
        rcases h with h | ⟨_, _, h⟩
        · obtain ⟨hfault, w, hw, htext⟩ := ih h
          exact ⟨hfault, w, List.mem_cons_of_mem _ hw, htext⟩
        · cases h

theorem resolveKeys_error (hs : s.declaration = d)
    (h : exec resolveKeys s = (.error e, t)) :
    e.Tells d (d.key = none ∧ ∃ v ∈ s.key, v.isText = false) := by
  unfold resolveKeys at h
  rw [exec_bind_of_ok (exec_get s)] at h
  dsimp only at h
  split at h
  · rename_i fault hkey
    cases h
    unfold keyOf at hkey
    rw [hs] at hkey
    split at hkey
    · cases hkey
    · rename_i hnone
      obtain ⟨rfl, hnames⟩ := mapM_keyName_error hkey
      exact .inr ⟨rfl, hnone, hnames⟩
  · split at h
    · exact fail_error hs h
    · cases h

theorem name_of_describedField {options : Value} {g : FieldDeclaration}
    (h : Feature.describedField options = .ok g) :
    (∃ s, options.under? "name" = some (.text s)) ∨
      ∃ bs, options.under? "name" = some (.bytes bs) := by
  unfold Feature.describedField at h
  split at h
  · rename_i r hrecord
    cases options with
    | dict es =>
        obtain rfl := Record.ofValue?_eq_some hrecord
        rw [mapError_eq_ok] at h
        change (FieldDeclaration.ofEntries r.entries).result = _ at h
        rw [Check.result_eq_ok, FieldDeclaration.ofEntries, Check.bind_eq_pure] at h
        obtain ⟨name, hname, _⟩ := h
        obtain ⟨v, hv, htext⟩ := Check.required_eq_pure.mp hname
        change (∃ s, r.toValue.under? "name" = _) ∨ ∃ bs, r.toValue.under? "name" = _
        rw [Record.under?_toValue, ← Record.under?_entries, hv]
        rcases Check.text_eq_pure.mp htext with rfl | ⟨bs, rfl, _⟩
        · exact .inl ⟨name, rfl⟩
        · exact .inr ⟨bs, rfl⟩
    | _ => cases hrecord
  · cases h

theorem unfit_of_key {fs : List FeatureDeclaration} {uses : List Use}
    (hfeatures : catalogue.features = Feature.builtin)
    (hall : List.Forall₂ (Resolves catalogue) fs uses)
    (hrun : exec (runPhase .beforeFields uses) s = (.ok (), t)) {v : Value}
    (hv : keyOfUses? uses = some v) (htext : v.isText = false) (hnone : key = none) :
    ∃ f ∈ fs, f.Unfit key := by
  obtain ⟨u, hu, hauto, rfl⟩ := exists_of_keyOfUses? hv
  obtain ⟨f, hf, hresolves⟩ := exists_of_mem_forall₂ hall hu
  have hfeature : u.1 = Feature.autoId := Feature.eq_of_name (hfeatures ▸ hresolves.mem.1)
    (by simp [Feature.builtin]) (hresolves.mem.2.trans hauto)
  have hbuiltin : ∀ u ∈ uses, u.1 ∈ Feature.builtin := fun u hu => by
    obtain ⟨f, _, hresolves⟩ := exists_of_mem_forall₂ hall hu
    exact hfeatures ▸ hresolves.mem.1
  have hcallback : u.1.callback? .beforeFields = Feature.autoId.callback? .beforeFields := by
    rw [hfeature]
  obtain ⟨_, _, hdone, _⟩ := exec_callback_of_runPhase hbuiltin hrun hu (hcallback.trans rfl)
  obtain ⟨g, hg, _⟩ := Feature.addDescribed_bind_ok hdone
  have hnormal := hresolves.normal
  rw [hfeature] at hnormal
  rcases name_of_describedField hg with ⟨name, hname⟩ | ⟨bs, hname⟩
  · rw [hname] at htext
    cases htext
  · exact ⟨f, hf, .keyed (hresolves.name.symm.trans hauto) hnone hnormal hname⟩

theorem build_error (hfeatures : catalogue.features = Feature.builtin)
    (h : exec (build catalogue) { declaration := d } = (.error e, t)) :
    e.Tells d (∃ f ∈ d.features, f.Unfit d.key) := by
  unfold build at h
  rw [exec_bind_of_ok (exec_get _)] at h
  simp only [Bool.false_eq_true, if_false] at h
  rw [exec_bind_of_ok (exec_set _ _), exec_bind_eq_error] at h
  rcases h with h | ⟨uses, s₁, huses, h⟩
  · exact resolveFeatures_error hfeatures rfl h
  obtain ⟨rfl, hall, _, hpairs⟩ := resolveFeatures_ok huses
  have hbuiltin : ∀ u ∈ uses, u.1 ∈ Feature.builtin ∧ u.1.name = u.2.name := fun u hu => by
    obtain ⟨f, _, hresolves⟩ := exists_of_mem_forall₂ hall hu
    exact hfeatures ▸ hresolves.mem
  have hmem := fun u hu => (hbuiltin u hu).1
  have hstable := Draft.stable_declaration d
  -- the declaration of the draft stays the same from one phase to the next
  have hphase : ∀ {phase : Phase} {s s' : Draft}, s.declaration = d →
      exec (runPhase phase uses) s = (.ok (), s') → s'.declaration = d := by
    intro phase s s' hs hrun
    have hkept := keeps_runPhase hstable hmem phase s hs
    rwa [hrun] at hkept
  rw [exec_bind_eq_error] at h
  rcases h with h | ⟨_, s₂, hbefore, h⟩
  · exact runPhase_error hfeatures hall rfl h
  have hs₂ := hphase rfl hbefore
  rw [exec_bind_eq_error] at h
  rcases h with h | ⟨_, s₃, hdeclared, h⟩
  · exact addDeclared_error hs₂ h
  have hs₃ : s₃.declaration = d := by
    have hkept := keeps_addDeclared hstable d.fields s₂ hs₂
    rwa [hdeclared] at hkept
  rw [exec_bind_eq_error] at h
  rcases h with h | ⟨_, s₄, hafter, h⟩
  · exact runPhase_error hfeatures hall hs₃ h
  have hs₄ := hphase hs₃ hafter
  rw [exec_bind_eq_error] at h
  rcases h with h | ⟨_, s₅, hfinal, h⟩
  · exact runPhase_error hfeatures hall hs₄ h
  have hs₅ := hphase hs₄ hfinal
  rw [exec_bind_of_ok (exec_get _), exec_bind_eq_error] at h
  rcases h with h | ⟨fields, s₆, hfields, h⟩
  · exact mapM_describe_error hs₅ h
  obtain ⟨hsame, _⟩ := mapM_describe_ok hfields
  rw [hsame, exec_bind_eq_error] at h
  rcases h with h | ⟨_, _, _, h⟩
  · refine (resolveKeys_error hs₅ h).imp ?_
    rintro ⟨hnone, v, hv, htext⟩
    rw [key_of_phases hbuiltin hpairs hbefore hdeclared hafter hfinal] at hv
    cases hname : keyOfUses? uses with
    | none =>
        rw [hname] at hv
        cases hv
    | some name =>
        rw [hname] at hv
        obtain rfl := List.mem_singleton.mp hv
        exact unfit_of_key hfeatures hall hbefore hname htext hnone
  · cases h

/-! ### What links is fit -/

namespace Course

variable {entity : Entity} {uses : List Use} {declared after final : Draft}

theorem resolves (h : Course catalogue d entity uses declared after final) :
    List.Forall₂ (Resolves catalogue) d.features uses :=
  (resolveFeatures_ok h.resolved).2.1

theorem exists_use (h : Course catalogue d entity uses declared after final)
    (hf : f ∈ d.features) : ∃ u ∈ uses, Resolves catalogue f u :=
  exists_of_mem_forall₂ h.resolves.flip hf

theorem work (h : Course catalogue d entity uses declared after final) (hu : u ∈ uses)
    (hresolves : Resolves catalogue f u) (feature : Feature) (hfeature : feature ∈ Feature.builtin)
    (hname : feature.name = f.name) :
    feature.normalize f.options = .ok u.2.options ∧
      ∀ phase callback, feature.callback? phase = some callback →
        ∃ d₁ d₂, exec (callback u.2.options) d₁ = (.ok (), d₂) := by
  have hbuiltin : ∀ u ∈ uses, u.1 ∈ Feature.builtin := fun u hu => (h.builtin u hu).1
  have hsame : u.1 = feature := Feature.eq_of_name (hbuiltin u hu) hfeature
    (hresolves.mem.2.trans (hresolves.name.trans hname.symm))
  obtain ⟨begun, hbegun, _⟩ := h.begins
  subst hsame
  refine ⟨hresolves.normal, fun phase callback hcallback => ?_⟩
  have hrun : ∃ s t, exec (runPhase phase uses) s = (.ok (), t) := by
    cases phase with
    | beforeFields => exact ⟨_, _, hbegun⟩
    | afterFields => exact ⟨_, _, h.afterFields⟩
    | finalize => exact ⟨_, _, h.finalize⟩
  obtain ⟨s, t, hrun⟩ := hrun
  obtain ⟨d₁, d₂, hdone, _⟩ := exec_callback_of_runPhase hbuiltin hrun hu hcallback
  exact ⟨d₁, d₂, hdone⟩

end Course

theorem isText_of_describes {usual : Record} {options : Value} {x : Link Unit}
    (hnormal : Feature.fieldOptions usual f.options = .ok options)
    (hdone : exec (Feature.addDescribed options >>= fun _ => x) s = (.ok (), t))
    {es : List (Value × Value)} (hoptions : f.options = .dict es) {entry : Value × Value}
    (hentry : entry ∈ es) : entry.1.isText = true := by
  obtain ⟨g, hg, _⟩ := Feature.addDescribed_bind_ok hdone
  exact (Feature.ofValue?_fieldOptions hnormal).mp (Feature.ofValue?_of_describedField hg) es
    hoptions entry hentry

namespace Course

variable {entity : Entity} {uses : List Use} {declared after final : Draft}

theorem listed_of_nullability (h : Course catalogue d entity uses declared after final)
    (hf : f ∈ d.features) (hname : f.name = "at_least_one_not_null") :
    ∃ names, f.options.members? = some names ∧ ∀ name ∈ names, name.isHashable = true := by
  obtain ⟨u, hu, hresolves⟩ := h.exists_use hf
  obtain ⟨hnormal, hdone⟩ := h.work hu hresolves Feature.atLeastOneNotNull
    (by simp [Feature.builtin]) hname.symm
  rcases Feature.Nullability.normalize_ok hnormal with ⟨s, hs, _⟩ | hmembers
  · refine ⟨_, by rw [hs]; rfl, fun name hmem => ?_⟩
    obtain ⟨c, _, rfl⟩ := List.mem_map.mp hmem
    rfl
  · refine ⟨_, hmembers, fun name hmem => ?_⟩
    obtain ⟨_, _, hdone⟩ := hdone .finalize _ rfl
    obtain ⟨s, rfl⟩ := (Feature.Nullability.makeOptional_ok hdone).1 name hmem
    rfl

theorem isText_of_described (h : Course catalogue d entity uses declared after final)
    (hf : f ∈ d.features) (hname : f.name ∈ ["auto_id", "create_timestamp", "update_timestamp"])
    {es : List (Value × Value)} (hoptions : f.options = .dict es) {entry : Value × Value}
    (hentry : entry ∈ es) : entry.1.isText = true := by
  obtain ⟨u, hu, hresolves⟩ := h.exists_use hf
  have hwork := h.work hu hresolves
  simp only [List.mem_cons, List.not_mem_nil, or_false] at hname
  rcases hname with hname | hname | hname
  · obtain ⟨hnormal, hdone⟩ := hwork Feature.autoId (by simp [Feature.builtin]) hname.symm
    obtain ⟨_, _, hdone⟩ := hdone .beforeFields _ rfl
    exact isText_of_describes hnormal hdone hoptions hentry
  · obtain ⟨hnormal, hdone⟩ := hwork Feature.createTimestamp (by simp [Feature.builtin]) hname.symm
    obtain ⟨_, _, hdone⟩ := hdone .afterFields _ rfl
    exact isText_of_describes hnormal hdone hoptions hentry
  · obtain ⟨hnormal, hdone⟩ := hwork Feature.updateTimestamp (by simp [Feature.builtin]) hname.symm
    obtain ⟨_, _, hdone⟩ := hdone .afterFields _ rfl
    exact isText_of_describes hnormal hdone hoptions hentry

theorem isText_of_named (h : Course catalogue d entity uses declared after final)
    (hf : f ∈ d.features) (hname : f.name ∈ ["state_tracking", "i18n"]) {name : Value}
    (hfield : f.options.under? "field" = some name) : name.isText = true := by
  obtain ⟨u, hu, hresolves⟩ := h.exists_use hf
  have hwork := h.work hu hresolves
  simp only [List.mem_cons, List.not_mem_nil, or_false] at hname
  rcases hname with hname | hname
  · obtain ⟨hnormal, hdone⟩ := hwork Feature.stateTracking (by simp [Feature.builtin]) hname.symm
    obtain ⟨_, _, hdone⟩ := hdone .afterFields _ rfl
    obtain ⟨g, _, _, htracked, _⟩ := Feature.StateTracking.addStamps_ok hdone
    rcases Feature.StateTracking.normalize_ok hnormal with ⟨s, hs, _⟩ | ⟨hstored, _⟩
    · rw [hs] at hfield
      cases hfield
    · rw [hfield, htracked] at hstored
      exact Value.isText_iff.mpr ⟨g.name, Option.some.inj hstored⟩
  · obtain ⟨hnormal, hdone⟩ := hwork Feature.localization (by simp [Feature.builtin]) hname.symm
    obtain ⟨_, _, hdone⟩ := hdone .afterFields _ rfl
    obtain ⟨g, hlocalized, _⟩ := Feature.Localization.addCopies_ok hdone
    obtain ⟨hstored, _⟩ := Feature.Localization.normalize_ok hnormal
    rw [hfield, hlocalized] at hstored
    exact Value.isText_iff.mpr ⟨g.name, Option.some.inj hstored⟩

theorem isHashable_of_marked (h : Course catalogue d entity uses declared after final)
    (hf : f ∈ d.features) (hname : f.name = "logical_deletion") {name mark : Value}
    (hoptions : f.options = .dict [(name, mark)]) : name.isHashable = true := by
  obtain ⟨u, hu, hresolves⟩ := h.exists_use hf
  obtain ⟨hnormal, hdone⟩ := h.work hu hresolves Feature.logicalDeletion
    (by simp [Feature.builtin]) hname.symm
  obtain ⟨_, _, hdone⟩ := hdone .afterFields _ rfl
  have hstored : Feature.Deletion.optionsOf name mark false = u.2.options := by
    rw [hoptions] at hnormal
    exact Except.ok.inj hnormal
  obtain ⟨_, hhash⟩ := Feature.Deletion.addFlag_ok hdone
  rw [← hstored, Feature.Deletion.mark_optionsOf] at hhash
  exact hhash (Feature.Deletion.isNew_optionsOf _ _ _)

theorem isHashable_of_suffixed (h : Course catalogue d entity uses declared after final)
    (hf : f ∈ d.features) (hname : f.name = "i18n") {es : List (Value × Value)}
    (hlocales : f.options.under? "locales" = some (.dict es)) :
    ∀ entry ∈ es, entry.2.isHashable = true := by
  obtain ⟨u, hu, hresolves⟩ := h.exists_use hf
  obtain ⟨hnormal, hdone⟩ := h.work hu hresolves Feature.localization (by simp [Feature.builtin])
    hname.symm
  obtain ⟨_, _, hdone⟩ := hdone .afterFields _ rfl
  obtain ⟨_, _, _, hsuffixes, _⟩ := Feature.Localization.addCopies_ok hdone
  obtain ⟨_, _, es', hgiven, hstored⟩ := Feature.Localization.normalize_ok hnormal
  rw [hlocales] at hgiven
  cases hgiven
  exact (Feature.Localization.forall_suffixes hstored).mp hsuffixes

theorem isText_of_keyed (h : Course catalogue d entity uses declared after final)
    (hf : f ∈ d.features) (hname : f.name = "auto_id") (hnone : d.key = none)
    {options name : Value} (hnormal : Feature.autoId.normalize f.options = .ok options)
    (hunder : options.under? "name" = some name) : name.isText = true := by
  obtain ⟨u, hu, hresolves⟩ := h.exists_use hf
  obtain ⟨t, hkeys⟩ := h.keys
  have hdeclaration : final.declaration = d := h.stays _ (Draft.stable_declaration d) rfl
  obtain ⟨_, _, _, hpairs⟩ := resolveFeatures_ok h.resolved
  obtain ⟨begun, hbegun, hdeclared⟩ := h.begins
  obtain ⟨hstored, _⟩ := h.work hu hresolves Feature.autoId (by simp [Feature.builtin]) hname.symm
  rw [hnormal] at hstored
  have hkey := key_of_phases h.builtin hpairs hbegun hdeclared h.afterFields h.finalize
  rw [keyOfUses?_of_mem (single_of_pairwise h.builtin hpairs) hu
    (hresolves.name.trans hname), ← Except.ok.inj hstored, hunder] at hkey
  rcases keyOf_ok (resolveKeys_ok hkeys).1 with ⟨k, hk, _⟩ | ⟨_, hnames⟩
  · rw [hdeclaration, hnone] at hk
    cases hk
  · rw [hkey] at hnames
    have hsingle : entity.key.map Value.text = [name] := hnames.symm
    obtain ⟨first, _, _, hfirst, _⟩ := List.map_eq_cons_iff.mp hsingle
    exact Value.isText_iff.mpr ⟨first, hfirst.symm⟩

theorem not_unfit (h : Course catalogue d entity uses declared after final)
    (hf : f ∈ d.features) : ¬f.Unfit d.key := by
  intro hunfit
  cases hunfit with
  | unlisted hname _ hnone =>
      obtain ⟨names, hmembers, _⟩ := h.listed_of_nullability hf hname
      cases hnone.symm.trans hmembers
  | @listed hname names hmembers name hmem hhash =>
      obtain ⟨names', hmembers', hall⟩ := h.listed_of_nullability hf hname
      cases hmembers.symm.trans hmembers'
      exact Bool.false_ne_true (hhash.symm.trans (hall name hmem))
  | described hname hoptions hentry hkey =>
      exact Bool.false_ne_true (hkey.symm.trans (h.isText_of_described hf hname hoptions hentry))
  | named hname hfield _ hhash =>
      obtain ⟨s, rfl⟩ := Value.isText_iff.mp (h.isText_of_named hf hname hfield)
      cases hhash
  | marked hname hoptions hhash =>
      exact Bool.false_ne_true (hhash.symm.trans (h.isHashable_of_marked hf hname hoptions))
  | @suffixed hname es hlocales entry hentry hhash =>
      have hall := h.isHashable_of_suffixed hf hname hlocales
      exact Bool.false_ne_true (hhash.symm.trans (hall entry hentry))
  | keyed hname hnone hnormal hunder => cases h.isText_of_keyed hf hname hnone hnormal hunder

end Course

end Linking

/-- Linking gives an entity or tells what is wrong with the declaration, unless it comes upon a
value of a wrong type in the options of a feature, with which it never gives an entity. -/
theorem Declaration.tells_of_link {catalogue : Catalogue}
    (hfeatures : catalogue.features = Feature.builtin) (d : Declaration) :
    ((∃ e, d.link catalogue = .ok e) ∨
      ∃ failure, d.link catalogue = .error failure ∧
        failure.Tells d (∃ f ∈ d.features, f.Unfit d.key)) ∧
    ∀ f ∈ d.features, f.Unfit d.key → ∀ e, d.link catalogue ≠ .ok e := by
  constructor
  · cases hlink : d.link catalogue with
    | ok e => exact .inl ⟨e, rfl⟩
    | error failure =>
        have hbuild : exec (Linking.build catalogue) { declaration := d } = (.error failure, _) :=
          Prod.ext hlink rfl
        exact .inr ⟨failure, rfl, Linking.build_error hfeatures hbuild⟩
  · intro f hf hunfit e hlink
    obtain ⟨uses, declared, after, final, hcourse⟩ := Linking.exists_course_of_link hfeatures hlink
    exact hcourse.not_unfit hf hunfit

def knownPerson (options : Value) : Declaration where
  name := "person"
  fields := [{ name := "name" }]
  features := [{ name := "at_least_one_not_null", options }]

/-- A number of names is nothing that can be gone through, and nothing tells so. -/
theorem knownPerson_tells :
    (∃ e, (knownPerson (.list [.text "name"])).link ⟨Feature.builtin, Generator.builtin⟩ = .ok e) ∧
    (∃ p, (knownPerson (.list [.text "nick"])).link ⟨Feature.builtin, Generator.builtin⟩ =
      .error (.declaration p)) ∧
    (knownPerson (.int 5)).link ⟨Feature.builtin, Generator.builtin⟩ = .error (.fault .wrongType) ∧
    ∀ e, (knownPerson (.int 5)).link ⟨Feature.builtin, Generator.builtin⟩ ≠ .ok e := by
  let catalogue : Catalogue := ⟨Feature.builtin, Generator.builtin⟩
  have hfeatures : catalogue.features = Feature.builtin := rfl
  refine ⟨⟨_, rfl⟩, ⟨_, rfl⟩, rfl, ?_⟩
  exact (Declaration.tells_of_link hfeatures (knownPerson (.int 5))).2 _
    (List.mem_singleton.mpr rfl) (.unlisted rfl rfl rfl)

end FieldPipeline
