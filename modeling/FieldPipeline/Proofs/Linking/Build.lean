import Mathlib.Data.List.Nodup
import FieldPipeline.Linking.Build
import FieldPipeline.Proofs.Linking.Callbacks
import FieldPipeline.Proofs.Sequence

/-!
What is known of an entity that was linked with the built-in features: its fields have distinct
names, and each of its features is one that can tell whether an update has to know the record
before it.  The types and the generators of its fields are known, and for each value of a field
whose states are tracked there is a field with the time.
-/

namespace FieldPipeline

theorem Feature.eq_of_name {f g : Feature} (hf : f ∈ builtin) (hg : g ∈ builtin)
    (h : f.name = g.name) : f = g := by
  have hnames : (builtin.map Feature.name).Nodup := by decide
  exact List.inj_on_of_nodup_map hnames hf hg h

namespace Linking

variable {catalogue : Catalogue} {P : Draft → Prop}

open Link

theorem keeps_fail {α : Type} (fault : DeclarationFault) : Keeps P (fail fault : Link α) :=
  .bind .get fun _ => .throw _

theorem keeps_explain {α : Type} {x : Link α} (hx : Keeps P x)
    (retell : String → DeclarationFault) : Keeps P (explain x retell) := by
  refine .tryCatch hx fun f => ?_
  split
  · exact keeps_fail _
  · exact .throw _

theorem exec_explain_eq_ok {α : Type} {x : Link α} {retell : String → DeclarationFault}
    {d t : Draft} {a : α} (h : exec (explain x retell) d = (.ok a, t)) :
    exec x d = (.ok a, t) := by
  unfold explain at h
  rw [exec_tryCatch] at h
  rcases hx : exec x d with ⟨f | b, u⟩
  · rw [hx] at h
    dsimp only at h
    split at h
    · cases h
    · cases h
  · rw [hx] at h
    exact h

theorem keeps_runPhase (hP : Draft.Stable P) {uses : List Use}
    (huses : ∀ u ∈ uses, u.1 ∈ Feature.builtin) (phase : Phase) :
    Keeps P (runPhase phase uses) := by
  refine .forM fun u hu => ?_
  obtain ⟨f, use⟩ := u
  dsimp only
  split
  · rename_i callback hcallback
    exact keeps_explain (Feature.keeps_of_mem_builtin hP (huses _ hu) hcallback use.options) _
  · exact .pure _

theorem exec_runPhase_cons_ok {phase : Phase} {u : Use} {uses : List Use} {d t : Draft}
    (h : exec (runPhase phase (u :: uses)) d = (.ok (), t)) :
    ∃ d₁, (u.1.callback? phase = none → d₁ = d) ∧
      (∀ callback, u.1.callback? phase = some callback →
        exec (callback u.2.options) d = (.ok (), d₁)) ∧
      exec (runPhase phase uses) d₁ = (.ok (), t) := by
  obtain ⟨f, use⟩ := u
  change exec (((f, use) :: uses).forM _) d = _ at h
  rw [exec_forM_cons, exec_bind_eq_ok] at h
  obtain ⟨_, d₁, hfirst, hrest⟩ := h
  refine ⟨d₁, fun hnone => ?_, fun callback hcallback => ?_, hrest⟩
  · dsimp only at hfirst hnone
    rw [hnone] at hfirst
    cases hfirst
    rfl
  · dsimp only at hfirst hcallback
    rw [hcallback] at hfirst
    exact exec_explain_eq_ok hfirst

/-- In a phase that succeeds, each feature has done its work on some draft, and what is stable on
the draft after that is there in the end. -/
theorem exec_callback_of_runPhase {phase : Phase} {uses : List Use}
    (huses : ∀ u ∈ uses, u.1 ∈ Feature.builtin) {d t : Draft}
    (h : exec (runPhase phase uses) d = (.ok (), t)) {u : Use} (hu : u ∈ uses)
    {callback : Value → Link Unit} (hcallback : u.1.callback? phase = some callback) :
    ∃ d₁ d₂, exec (callback u.2.options) d₁ = (.ok (), d₂) ∧
      ∀ P, Draft.Stable P → P d₂ → P t := by
  induction uses generalizing d with
  | nil => cases hu
  | cons first uses ih =>
      have hrest' : ∀ v ∈ uses, v.1 ∈ Feature.builtin := fun v hv => huses v (by simp [hv])
      obtain ⟨d₁, _, hfirst, hrest⟩ := exec_runPhase_cons_ok h
      rcases List.mem_cons.mp hu with rfl | hu
      · refine ⟨d, d₁, hfirst callback hcallback, fun P hP hd => ?_⟩
        have hkept := keeps_runPhase hP hrest' phase d₁ hd
        rwa [hrest] at hkept
      · exact ih hrest' hrest hu

structure Resolves (catalogue : Catalogue) (f : FeatureDeclaration) (u : Use) : Prop where
  find : Feature.find? catalogue.features f.name = some u.1
  name : u.2.name = f.name
  normal : u.1.normalize f.options = .ok u.2.options

theorem Resolves.mem {f : FeatureDeclaration} {u : Use} (h : Resolves catalogue f u) :
    u.1 ∈ catalogue.features ∧ u.1.name = u.2.name := by
  rw [h.name]
  exact Feature.mem_of_find? h.find

theorem resolveFeature_ok {seen : List String} {f : FeatureDeclaration} {d t : Draft} {u : Use}
    (h : exec (resolveFeature catalogue seen f) d = (.ok u, t)) :
    t = d ∧ Resolves catalogue f u ∧ (f.name ∈ seen → u.1.allowMultiple = true) := by
  unfold resolveFeature at h
  split at h
  · cases h
  · rename_i feature hfind
    dsimp only at h
    split at h
    · cases h
    · rename_i hrepeated
      rw [exec_bind_eq_ok] at h
      obtain ⟨options, d₁, hoptions, h⟩ := h
      have hnormal := exec_explain_eq_ok hoptions
      cases h
      cases hn : feature.normalize f.options with
      | error e =>
          rw [hn] at hnormal
          cases hnormal
      | ok v =>
          rw [hn] at hnormal
          cases hnormal
          refine ⟨rfl, ⟨hfind, rfl, hn⟩, fun hseen => ?_⟩
          simpa [hseen] using hrepeated

theorem resolveFeatures_ok {seen : List String} {fs : List FeatureDeclaration} {d t : Draft}
    {uses : List Use} (h : exec (resolveFeatures catalogue seen fs) d = (.ok uses, t)) :
    t = d ∧ List.Forall₂ (Resolves catalogue) fs uses ∧
      (∀ u ∈ uses, u.2.name ∈ seen → u.1.allowMultiple = true) ∧
      uses.Pairwise fun u v => u.2.name = v.2.name → v.1.allowMultiple = true := by
  induction fs generalizing seen uses with
  | nil =>
      cases h
      simp
  | cons f fs ih =>
      rw [resolveFeatures, exec_bind_eq_ok] at h
      obtain ⟨u, d₁, hfirst, h⟩ := h
      rw [exec_bind_eq_ok] at h
      obtain ⟨rest, d₂, hrest, h⟩ := h
      cases h
      obtain ⟨rfl, hresolves, hmultiple⟩ := resolveFeature_ok hfirst
      obtain ⟨rfl, hall, hseen, hpairs⟩ := ih hrest
      refine ⟨rfl, .cons hresolves hall, List.forall_mem_cons.mpr ⟨?_, fun v hv hname => ?_⟩,
        List.pairwise_cons.mpr ⟨fun v hv hname => ?_, hpairs⟩⟩
      · rwa [hresolves.name]
      · exact hseen v hv (List.mem_cons_of_mem _ hname)
      · rw [hresolves.name] at hname
        exact hseen v hv (by simp [← hname])

theorem keeps_addDeclared (hP : Draft.Stable P) (fields : List FieldDeclaration) :
    Keeps P (addDeclared fields) :=
  .forM fun f _ => keeps_explain (.addField hP f) _

theorem addDeclared_ok {fields : List FieldDeclaration} {d t : Draft}
    (h : exec (addDeclared fields) d = (.ok (), t)) :
    t = { d with fields := d.fields ++ fields } := by
  induction fields generalizing d with
  | nil =>
      cases h
      simp
  | cons f fields ih =>
      change exec ((f :: fields).forM _) d = _ at h
      rw [exec_forM_cons, exec_bind_eq_ok] at h
      obtain ⟨_, d₁, hfirst, h⟩ := h
      rw [ih h, exec_addField_ok (exec_explain_eq_ok hfirst)]
      simp

theorem describe_ok {f : FieldDeclaration} {d t : Draft} {linked : Field}
    (h : exec (describe catalogue f) d = (.ok linked, t)) :
    t = d ∧ linked = linkedField f ∧ fieldFault? catalogue f = none := by
  unfold describe at h
  split at h
  · cases h
  · rename_i hfault
    cases h
    exact ⟨rfl, rfl, hfault⟩

theorem mapM_describe_ok {fields : List FieldDeclaration} {d t : Draft} {linked : List Field}
    (h : exec (fields.mapM (describe catalogue)) d = (.ok linked, t)) :
    t = d ∧ linked = fields.map linkedField ∧
      ∀ f ∈ fields, fieldFault? catalogue f = none := by
  induction fields generalizing d linked with
  | nil =>
      cases h
      simp
  | cons f fields ih =>
      rw [List.mapM_cons, exec_bind_eq_ok] at h
      obtain ⟨g, d₁, hfirst, h⟩ := h
      rw [exec_bind_eq_ok] at h
      obtain ⟨rest, d₂, hrest, h⟩ := h
      cases h
      obtain ⟨rfl, rfl, hfault⟩ := describe_ok hfirst
      obtain ⟨rfl, rfl, hfaults⟩ := ih hrest
      exact ⟨rfl, rfl, List.forall_mem_cons.mpr ⟨hfault, hfaults⟩⟩

/-- The course of a linking with the built-in features that succeeds: the uses of features, and
the drafts after the declared fields, the fields of the features, and the last phase. -/
structure Course (catalogue : Catalogue) (d : Declaration) (e : Entity) (uses : List Use)
    (declared after final : Draft) : Prop where
  features : e.features = uses.map Prod.snd
  resolved : exec (resolveFeatures catalogue [] d.features) { declaration := d, linked := true } =
    (.ok uses, { declaration := d, linked := true })
  begins : ∃ begun, exec (runPhase .beforeFields uses) { declaration := d, linked := true } =
    (.ok (), begun) ∧ exec (addDeclared d.fields) begun = (.ok (), declared)
  builtin : ∀ u ∈ uses, u.1 ∈ Feature.builtin ∧ u.1.name = u.2.name
  distinct : declared.fieldNames.Nodup
  afterFields : exec (runPhase .afterFields uses) declared = (.ok (), after)
  finalize : exec (runPhase .finalize uses) after = (.ok (), final)
  fields : e.fields = final.fields.map linkedField
  faultless : ∀ f ∈ final.fields, fieldFault? catalogue f = none
  stays : ∀ P, Draft.Stable P → P { declaration := d, linked := true } → P final
  keys : ∃ t, exec resolveKeys final = (.ok (e.key, e.uniqueKeys), t)

theorem exists_course_of_link {d : Declaration} {e : Entity}
    (hfeatures : catalogue.features = Feature.builtin) (h : d.link catalogue = .ok e) :
    ∃ uses declared after final, Course catalogue d e uses declared after final := by
  have hbuild : ∃ t, exec (build catalogue) { declaration := d } = (.ok e, t) := ⟨_, Prod.ext h rfl⟩
  obtain ⟨t, hbuild⟩ := hbuild
  unfold build at hbuild
  rw [exec_bind_of_ok (exec_get _)] at hbuild
  simp only [Bool.false_eq_true, if_false] at hbuild
  rw [exec_bind_of_ok (exec_set _ _)] at hbuild
  simp only [exec_bind_eq_ok] at hbuild
  obtain ⟨uses, d₁, huses, _, d₂, hbefore, _, d₃, hdeclared, _, d₄, hafter, _, d₅, hfinal, d', d₆,
    hget, fields, d₇, hfields, keys, d₈, hkeys, h⟩ := hbuild
  cases h
  cases hget
  obtain ⟨rfl, hall, _⟩ := resolveFeatures_ok huses
  have hresolved : ∀ u ∈ uses, u.1 ∈ catalogue.features ∧ u.1.name = u.2.name := fun u hu => by
    obtain ⟨f, _, hresolves⟩ := exists_of_mem_forall₂ hall hu
    exact hresolves.mem
  obtain ⟨rfl, hlinked, hfaultless⟩ := mapM_describe_ok hfields
  have hbuiltin : ∀ u ∈ uses, u.1 ∈ Feature.builtin := fun u hu => hfeatures ▸ (hresolved u hu).1
  have hstays : ∀ P, Draft.Stable P → P { declaration := d, linked := true } → P d₃ := by
    intro P hP hstart
    have hfirst := keeps_runPhase hP hbuiltin .beforeFields _ hstart
    rw [hbefore] at hfirst
    have hthen := keeps_addDeclared hP d.fields d₂ hfirst
    rwa [hdeclared] at hthen
  exact ⟨uses, d₃, d₄, d₇, {
    features := rfl
    resolved := huses
    begins := ⟨d₂, hbefore, hdeclared⟩
    builtin := fun u hu => ⟨hbuiltin u hu, (hresolved u hu).2⟩
    distinct := hstays _ Draft.stable_distinct List.nodup_nil
    afterFields := hafter
    finalize := hfinal
    fields := hlinked
    faultless := hfaultless
    stays := fun P hP hstart => by
      have hafterFields := keeps_runPhase hP hbuiltin .afterFields d₃ (hstays P hP hstart)
      rw [hafter] at hafterFields
      have hfinally := keeps_runPhase hP hbuiltin .finalize d₄ hafterFields
      rwa [hfinal] at hfinally
    keys := ⟨_, hkeys⟩ }⟩

namespace Course

variable {d : Declaration} {e : Entity} {uses : List Use} {declared after final : Draft}

theorem of_after (h : Course catalogue d e uses declared after final) (hP : Draft.Stable P)
    (hafter : P after) : P final := by
  have hfinal := keeps_runPhase hP (fun u hu => (h.builtin u hu).1) .finalize after hafter
  rwa [h.finalize] at hfinal

theorem mem_uses (h : Course catalogue d e uses declared after final) {u : FeatureUse}
    (hu : u ∈ e.features) {f : Feature} (hf : f ∈ Feature.builtin) (hname : f.name = u.name) :
    (f, u) ∈ uses := by
  rw [h.features] at hu
  obtain ⟨⟨f', use⟩, hmem, rfl⟩ := List.mem_map.mp hu
  rwa [Feature.eq_of_name hf (h.builtin _ hmem).1 (hname.trans (h.builtin _ hmem).2.symm)]

theorem exists_work (h : Course catalogue d e uses declared after final) {u : FeatureUse}
    (hu : u ∈ e.features) {f : Feature} (hf : f ∈ Feature.builtin) (hname : f.name = u.name)
    {callback : Value → Link Unit} (hcallback : f.callback? .afterFields = some callback) :
    ∃ d₁ d₂, exec (callback u.options) d₁ = (.ok (), d₂) ∧
      ∀ Q : FieldDeclaration → Prop, (∀ name g, Q g → Q (Draft.relaxed name g)) →
        ∀ g ∈ d₂.fields, Q g → ∃ g', linkedField g' ∈ e.fields ∧ Q g' := by
  obtain ⟨d₁, d₂, hdone, hstable⟩ := exec_callback_of_runPhase
    (fun u hu => (h.builtin u hu).1) h.afterFields (h.mem_uses hu hf hname) hcallback
  refine ⟨d₁, d₂, hdone, fun Q hQ g hg hq => ?_⟩
  obtain ⟨g', hg', hq'⟩ := h.of_after (Draft.stable_field hQ)
    (hstable _ (Draft.stable_field hQ) ⟨g, hg, hq⟩)
  exact ⟨g', h.fields ▸ List.mem_map_of_mem hg', hq'⟩

end Course

end Linking

/-- What linking with the built-in features makes sure of. -/
structure Entity.Sound (e : Entity) : Prop where
  distinct : e.fieldNames.Nodup
  known : ∀ u ∈ e.features, ∃ f ∈ Feature.builtin, f.name = u.name
  asks : ∀ u ∈ e.features, ∀ f ∈ Feature.builtin, f.name = u.name →
    ∀ needs, f.needsExisting = some needs → ∀ raw, ∃ needed, needs u.options raw = .ok needed

theorem Entity.mem_of_field? {e : Entity} {name : String} {f : Field}
    (h : e.field? name = some f) : f ∈ e.fields ∧ f.name = name :=
  ⟨List.mem_of_find?_eq_some h, by simpa using List.find?_some h⟩

theorem Entity.Sound.field?_eq {e : Entity} (h : e.Sound) {f : Field} (hf : f ∈ e.fields) :
    e.field? f.name = some f := by
  have hdistinct := h.distinct
  unfold Entity.fieldNames at hdistinct
  cases hfind : e.field? f.name with
  | none =>
      unfold Entity.field? at hfind
      rw [List.find?_eq_none] at hfind
      exact absurd (by simp) (hfind f hf)
  | some g =>
      obtain ⟨hg, hname⟩ := Entity.mem_of_field? hfind
      rw [List.inj_on_of_nodup_map hdistinct hg hf hname]

namespace Feature

theorem needsExisting_ok_of_makeOptional {options : Value} {d t : Draft}
    (h : exec (Nullability.makeOptional (Nullability.names options)) d = (.ok (), t))
    (raw : Record) : ∃ needed, Nullability.needsExisting options raw = .ok needed := by
  unfold Nullability.needsExisting
  generalize Nullability.names options = names at h
  induction names generalizing d with
  | nil => exact ⟨false, rfl⟩
  | cons name rest ih =>
      rw [Nullability.makeOptional, exec_bind, Link.exec_hasField] at h
      cases hname : name.isHashable with
      | false =>
          rw [hname] at h
          cases h
      | true =>
          rw [hname] at h
          simp only [if_true] at h
          cases hknows : d.knows name with
          | false =>
              rw [hknows] at h
              cases h
          | true =>
              rw [hknows] at h
              simp only [if_true] at h
              rw [exec_bind_eq_ok] at h
              obtain ⟨_, d₁, _, h⟩ := h
              obtain ⟨needed, hneeded⟩ := ih h
              rw [List.foldr_cons, hneeded]
              simp only [hname, Bool.not_true, Bool.false_eq_true, if_false]
              split
              · exact ⟨_, rfl⟩
              · exact ⟨_, rfl⟩

theorem needsExisting_ok_of_addStamps {options : Value} {d t : Draft}
    (h : exec (StateTracking.addStamps options) d = (.ok (), t))
    (raw : Record) : ∃ needed, StateTracking.needsExisting options raw = .ok needed := by
  unfold StateTracking.addStamps at h
  dsimp only at h
  rw [exec_bind, Link.exec_hasField] at h
  unfold StateTracking.needsExisting
  cases hname : (StateTracking.tracked options).isHashable with
  | false =>
      rw [hname] at h
      cases h
  | true =>
      simp only [hname, Bool.not_true, Bool.false_eq_true, if_false]
      split
      · exact ⟨_, rfl⟩
      · exact ⟨_, rfl⟩

end Feature

open Linking

theorem Declaration.sound_of_link {catalogue : Catalogue} {d : Declaration} {e : Entity}
    (hfeatures : catalogue.features = Feature.builtin) (h : d.link catalogue = .ok e) :
    e.Sound := by
  obtain ⟨uses, declared, after, final, hcourse⟩ := exists_course_of_link hfeatures h
  have hbuiltin := fun u hu => (hcourse.builtin u hu).1
  refine ⟨?_, ?_, ?_⟩
  · have hdistinct : after.fieldNames.Nodup := by
      have hkept := keeps_runPhase Draft.stable_distinct hbuiltin .afterFields declared
        hcourse.distinct
      rwa [hcourse.afterFields] at hkept
    unfold Entity.fieldNames
    rw [hcourse.fields, List.map_map]
    exact hcourse.of_after Draft.stable_distinct hdistinct
  · intro u hu
    rw [hcourse.features] at hu
    obtain ⟨⟨f, use⟩, hmem, rfl⟩ := List.mem_map.mp hu
    exact ⟨f, hcourse.builtin _ hmem⟩
  · intro u hu f hf hname needs hneeds raw
    have hmem := hcourse.mem_uses hu hf hname
    simp only [Feature.builtin, List.mem_cons, List.not_mem_nil, or_false] at hf
    rcases hf with rfl | rfl | rfl | rfl | rfl | rfl | rfl
    · cases hneeds
    · cases hneeds
    · cases hneeds
    · cases hneeds
    · cases hneeds
      obtain ⟨_, _, hdone, _⟩ := exec_callback_of_runPhase hbuiltin hcourse.finalize hmem rfl
      exact Feature.needsExisting_ok_of_makeOptional hdone raw
    · cases hneeds
      obtain ⟨_, _, hdone, _⟩ := exec_callback_of_runPhase hbuiltin hcourse.afterFields hmem rfl
      exact Feature.needsExisting_ok_of_addStamps hdone raw
    · cases hneeds

structure Field.Known (generators : List Generator) (f : Field) : Prop where
  type : ∃ type, BaseType.named? f.type = some type ∧
    (type = .enum → ∃ v vs, f.values = some (v :: vs))
  generator : ∀ name, f.generator = some name → (Generator.find? generators name).isSome = true

theorem BaseType.named?_name (t : BaseType) : named? t.name = some t := by
  cases t <;> decide +kernel

namespace Linking

theorem known_linkedField {catalogue : Catalogue} {f : FieldDeclaration}
    (h : fieldFault? catalogue f = none) : (linkedField f).Known catalogue.generators := by
  unfold fieldFault? at h
  split at h
  · cases h
  · rename_i type htype
    have hlinked : BaseType.named? (linkedField f).type = some type := by
      simp [linkedField, htype, BaseType.named?_name]
    split at h
    · cases h
    · rename_i hvalues
      refine ⟨⟨type, hlinked, fun henum => ?_⟩, fun name hname => ?_⟩
      · change ∃ v vs, f.values = some (v :: vs)
        rcases hcase : f.values with _ | _ | ⟨v, vs⟩
        · exact absurd ⟨henum, by simp [hcase]⟩ hvalues
        · exact absurd ⟨henum, by simp [hcase]⟩ hvalues
        · exact ⟨v, vs, rfl⟩
      · change f.generator = some name at hname
        rw [hname] at h
        dsimp only at h
        split at h
        · assumption
        · cases h

end Linking

theorem Declaration.known_of_link {catalogue : Catalogue} {d : Declaration} {e : Entity}
    (hfeatures : catalogue.features = Feature.builtin) (h : d.link catalogue = .ok e) :
    ∀ f ∈ e.fields, f.Known catalogue.generators := by
  obtain ⟨uses, declared, after, final, hcourse⟩ := exists_course_of_link hfeatures h
  rw [hcourse.fields, List.forall_mem_map]
  exact fun f hf => known_linkedField (hcourse.faultless f hf)

theorem Declaration.listed_of_link {catalogue : Catalogue} {d : Declaration} {e : Entity}
    (hfeatures : catalogue.features = Feature.builtin) (h : d.link catalogue = .ok e)
    {u : FeatureUse} (hu : u ∈ e.features) (hname : u.name = Feature.atLeastOneNotNull.name) :
    ∀ name ∈ Feature.Nullability.names u.options, ∃ f ∈ e.fields, name = .text f.name := by
  obtain ⟨uses, declared, after, final, hcourse⟩ := exists_course_of_link hfeatures h
  have hbuiltin := fun u hu => (hcourse.builtin u hu).1
  have hmem : (Feature.atLeastOneNotNull, u) ∈ uses :=
    hcourse.mem_uses hu (by simp [Feature.builtin]) hname.symm
  obtain ⟨d₁, d₂, hdone, hstable⟩ :=
    exec_callback_of_runPhase hbuiltin hcourse.finalize hmem rfl
  intro name hname
  obtain ⟨f, hf, rfl⟩ := Feature.Nullability.known_of_makeOptional hdone name hname
  have hnamed : Draft.Stable fun d => ∃ g ∈ d.fields, g.name = f.name :=
    Draft.stable_field fun other g hg => by rwa [Draft.name_relaxed]
  have hkept := Feature.keeps_makeOptional hnamed (Feature.Nullability.names u.options) d₁
  rw [show exec (Feature.Nullability.makeOptional _) d₁ = _ from hdone] at hkept
  obtain ⟨g, hg, hsame⟩ := hstable _ hnamed (hkept ⟨f, hf, rfl⟩)
  rw [hcourse.fields]
  exact ⟨linkedField g, List.mem_map_of_mem hg, congrArg Value.text hsame.symm⟩

structure Entity.Tracks (e : Entity) (options : Value) (f : Field) : Prop where
  mem : f ∈ e.fields
  tracked : Feature.StateTracking.tracked options = .text f.name
  stamps : ∀ states, f.values = some states → ∀ state ∈ states, ∃ g ∈ e.fields,
    g.name = Feature.StateTracking.stampName f.name state ∧ g.generator = none ∧
      BaseType.named? g.type = some .datetime

theorem Declaration.tracked_of_link {catalogue : Catalogue} {d : Declaration} {e : Entity}
    (hfeatures : catalogue.features = Feature.builtin) (h : d.link catalogue = .ok e)
    {u : FeatureUse} (hu : u ∈ e.features) (hname : u.name = Feature.stateTracking.name)
    {K : FieldDeclaration → FieldDeclaration → Prop} (hrefl : ∀ f, K f f)
    (hrelaxed : ∀ f name g, K f g → K f (Draft.relaxed name g)) :
    ∃ f f' state states, K f f' ∧ linkedField f' ∈ e.fields ∧
      Feature.StateTracking.tracked u.options = .text f.name ∧ f.type = "enum" ∧
      f.values = some (state :: states) ∧ ∀ s ∈ state :: states, ∃ g, linkedField g ∈ e.fields ∧
        K (Feature.StateTracking.stampField f.name
          (Feature.StateTracking.isReversible u.options) s) g := by
  obtain ⟨uses, declared, after, final, hcourse⟩ := exists_course_of_link hfeatures h
  obtain ⟨d₁, d₂, hdone, hlinked⟩ := hcourse.exists_work hu (f := Feature.stateTracking)
    (by simp [Feature.builtin]) hname.symm rfl
  obtain ⟨f, state, states, htracked, hf, htype, hvalues, hdraft⟩ :=
    Feature.StateTracking.addStamps_ok hdone
  have hkept : ∀ g ∈ d₂.fields, ∃ g', linkedField g' ∈ e.fields ∧ K g g' := fun g hg =>
    hlinked (K g) (hrelaxed g) g hg (hrefl g)
  have hfields := congrArg Draft.fields hdraft
  obtain ⟨f', hf', hkeeps⟩ := hkept f
    (hfields ▸ List.mem_append_left _ (Draft.mem_of_field? hf))
  refine ⟨f, f', state, states, hkeeps, hf', htracked, htype, hvalues, fun s hs => ?_⟩
  exact hkept _ (hfields ▸ List.mem_append_right _ (List.mem_map_of_mem hs))

theorem Declaration.stamps_of_link {catalogue : Catalogue} {d : Declaration} {e : Entity}
    (hfeatures : catalogue.features = Feature.builtin) (h : d.link catalogue = .ok e)
    {u : FeatureUse} (hu : u ∈ e.features) (hname : u.name = Feature.stateTracking.name) :
    ∃ f ∈ e.fields, Feature.StateTracking.tracked u.options = .text f.name ∧
      ∀ state ∈ f.values.getD [], ∃ g : FieldDeclaration, linkedField g ∈ e.fields ∧
        g.Resembles (Feature.StateTracking.stampField f.name
          (Feature.StateTracking.isReversible u.options) state) := by
  obtain ⟨f, f', state, states, hlike, hf', htracked, -, hvalues, hstamps⟩ :=
    d.tracked_of_link hfeatures h hu hname (K := fun f g => g.Resembles f) .refl
      fun f name g hg => Draft.resembles_relaxed hg name
  refine ⟨linkedField f', hf', ?_, fun s hs => ?_⟩
  · rw [htracked]
    exact congrArg Value.text hlike.name.symm
  · change s ∈ f'.values.getD [] at hs
    rw [hlike.values, hvalues] at hs
    obtain ⟨g, hg, hstamp⟩ := hstamps s hs
    rw [← hlike.name] at hstamp
    exact ⟨g, hg, hstamp⟩

theorem Declaration.tracks_of_link {catalogue : Catalogue} {d : Declaration} {e : Entity}
    (hfeatures : catalogue.features = Feature.builtin) (h : d.link catalogue = .ok e)
    {u : FeatureUse} (hu : u ∈ e.features) (hname : u.name = Feature.stateTracking.name) :
    ∃ f, e.Tracks u.options f := by
  obtain ⟨f, hf, htracked, hstamps⟩ := d.stamps_of_link hfeatures h hu hname
  refine ⟨f, hf, htracked, fun states hvalues state hstate => ?_⟩
  obtain ⟨g, hg, hlike⟩ := hstamps state (by rwa [hvalues])
  have htype : BaseType.named? g.type = some .datetime := by
    rw [hlike.type]
    exact BaseType.named?_name .datetime
  exact ⟨linkedField g, hg, hlike.name, hlike.generator,
    by simp [linkedField, htype, BaseType.named?_name]⟩

/-! ### Keys -/

namespace Linking

theorem mem_addKey {keys : List (List String)} {key other : List String} :
    other ∈ addKey keys key ↔ other ∈ keys ∨ other = key := by
  unfold addKey
  split
  · rename_i hmem
    rw [List.contains_iff_mem] at hmem
    exact ⟨.inl, fun h => h.elim id fun heq => heq ▸ hmem⟩
  · simp

theorem mem_uniqueKeys {key other : List String} {indexes : List IndexDeclaration} :
    other ∈ uniqueKeys key indexes ↔
      other = key ∧ key ≠ [] ∨ ∃ i ∈ indexes, i.unique = true ∧ i.fields = other := by
  have hfold : ∀ (indexes : List IndexDeclaration) keys,
      other ∈ indexes.foldl (fun keys i => addKey keys i.fields) keys ↔
        other ∈ keys ∨ ∃ i ∈ indexes, i.fields = other := by
    intro indexes
    induction indexes with
    | nil => simp
    | cons i indexes ih =>
        intro keys
        rw [List.foldl_cons, ih, mem_addKey, List.exists_mem_cons_iff, or_assoc,
          eq_comm (a := other)]
  unfold uniqueKeys
  rw [hfold]
  cases key <;> simp [and_assoc]

theorem missingFields?_eq_none {hasField : String → Bool} {keys : List (List String)} :
    missingFields? hasField keys = none ↔ ∀ key ∈ keys, ∀ name ∈ key, hasField name = true := by
  induction keys with
  | nil => simp [missingFields?]
  | cons key keys ih =>
      simp only [missingFields?, List.isEmpty_iff, List.filter_eq_nil_iff, List.forall_mem_cons]
      split
      · rename_i hkey
        simpa [ih] using fun _ => hkey
      · rename_i hkey
        simpa using fun h => absurd h (by simpa using hkey)

theorem mapM_keyName_ok {names : List Value} {key : List String}
    (h : names.mapM keyName = .ok key) : names = key.map .text := by
  have hnames := forall₂_of_mapM h
  clear h
  induction hnames with
  | nil => rfl
  | @cons name text names texts hname _ ih =>
      cases name <;> cases hname
      rw [List.map_cons, ih]

theorem keyOf_ok {d : Draft} {key : List String} (h : keyOf d = .ok key) :
    (∃ k, d.declaration.key = some k ∧ key = k.names) ∨
      d.declaration.key = none ∧ d.key = key.map .text := by
  unfold keyOf at h
  cases hdeclared : d.declaration.key with
  | some k =>
      rw [hdeclared] at h
      cases h
      exact .inl ⟨k, rfl, rfl⟩
  | none =>
      rw [hdeclared] at h
      exact .inr ⟨rfl, mapM_keyName_ok h⟩

theorem resolveKeys_ok {d t : Draft} {key : List String} {keys : List (List String)}
    (h : exec resolveKeys d = (.ok (key, keys), t)) :
    keyOf d = .ok key ∧ keys = uniqueKeys key d.declaration.indexes ∧
      ∀ key ∈ keys, ∀ name ∈ key, d.hasField name = true := by
  unfold resolveKeys at h
  rw [exec_bind_of_ok (exec_get d)] at h
  dsimp only at h
  split at h
  · cases h
  · rename_i hkey
    split at h
    · cases h
    · rename_i hmissing
      cases h
      exact ⟨hkey, rfl, missingFields?_eq_none.mp hmissing⟩

end Linking

/-- Where the unique keys of a linked entity come from: the key of the declaration, or else that of
a feature, which is one field, and the unique indexes, whatever they list. -/
theorem Declaration.keys_of_link {catalogue : Catalogue} {d : Declaration} {e : Entity}
    (hfeatures : catalogue.features = Feature.builtin) (h : d.link catalogue = .ok e) :
    e.uniqueKeys = uniqueKeys e.key d.indexes ∧
      (∀ key ∈ e.uniqueKeys, ∀ name ∈ key, name ∈ e.fieldNames) ∧
      ((∃ k, d.key = some k ∧ e.key = k.names) ∨ d.key = none ∧ e.key.length ≤ 1) := by
  obtain ⟨uses, declared, after, final, hcourse⟩ := exists_course_of_link hfeatures h
  obtain ⟨t, hkeys⟩ := hcourse.keys
  obtain ⟨hkey, huniqueKeys, hfields⟩ := resolveKeys_ok hkeys
  have hdeclaration : final.declaration = d :=
    hcourse.stays _ (Draft.stable_declaration d) rfl
  have hshort : final.key.length ≤ 1 := hcourse.stays _ Draft.stable_key (Nat.zero_le 1)
  rw [hdeclaration] at huniqueKeys
  refine ⟨huniqueKeys, fun key hmem name hname => ?_, ?_⟩
  · have hnames : e.fieldNames = final.fieldNames := by
      rw [Entity.fieldNames, hcourse.fields, List.map_map]
      rfl
    rw [hnames, Draft.mem_fieldNames]
    exact hfields key hmem name hname
  · rcases keyOf_ok hkey with ⟨k, hk, hnames⟩ | ⟨hnone, hnames⟩
    · exact .inl ⟨k, hdeclaration ▸ hk, hnames⟩
    · rw [hnames, List.length_map] at hshort
      exact .inr ⟨hdeclaration ▸ hnone, hshort⟩

end FieldPipeline
