import FieldPipeline.Feature.Builtin
import FieldPipeline.Proofs.Effect

/-!
What the built-in features keep of a draft.  They add fields under names that are not taken, make
fields optional and make one field the key; a property of drafts that outlives these three outlives
all that the features do.
-/

namespace FieldPipeline

theorem Feature.mem_of_find? {features : List Feature} {name : String} {f : Feature}
    (h : find? features name = some f) : f ∈ features ∧ f.name = name :=
  ⟨List.mem_of_find?_eq_some h, by simpa using List.find?_some h⟩

theorem Feature.exists_of_needsExisting {features : List Feature} {name : String}
    {needs : Value → Record → Except Failure Bool}
    (h : (find? features name).bind (·.needsExisting) = some needs) :
    ∃ f ∈ features, f.name = name ∧ f.needsExisting = some needs := by
  obtain ⟨f, hfind, hneeds⟩ := Option.bind_eq_some_iff.mp h
  obtain ⟨hf, hname⟩ := mem_of_find? hfind
  exact ⟨f, hf, hname, hneeds⟩

structure FieldDeclaration.Resembles (g f : FieldDeclaration) : Prop where
  name : g.name = f.name
  type : g.type = f.type
  generator : g.generator = f.generator
  values : g.values = f.values
  readOnly : g.readOnly = f.readOnly
  hasDefault : g.hasDefault = f.hasDefault
  modifiers : g.modifiers = f.modifiers

theorem FieldDeclaration.Resembles.refl (f : FieldDeclaration) : f.Resembles f :=
  ⟨rfl, rfl, rfl, rfl, rfl, rfl, rfl⟩

namespace Draft

def fieldNames (d : Draft) : List String :=
  d.fields.map (·.name)

theorem mem_fieldNames (d : Draft) (name : String) :
    name ∈ d.fieldNames ↔ d.hasField name = true := by
  simp [fieldNames, hasField, field?]

def knows (d : Draft) : Value → Bool
  | .text name => d.hasField name
  | _ => false

def relaxed (name : String) (f : FieldDeclaration) : FieldDeclaration :=
  if f.name = name then { f with optional := true, given := "optional" :: f.given } else f

/-- Whether a property outlives the changes that features make. -/
structure Stable (P : Draft → Prop) : Prop where
  added : ∀ d f, d.hasField f.name = false → P d → P { d with fields := d.fields ++ [f] }
  relaxed : ∀ d name, P d → P { d with fields := d.fields.map (relaxed name) }
  keyed : ∀ d name, P d → P { d with key := [name] }

@[simp] theorem name_relaxed (name : String) (f : FieldDeclaration) :
    (relaxed name f).name = f.name := by
  unfold Draft.relaxed
  split <;> rfl

theorem stable_distinct : Stable fun d => d.fieldNames.Nodup where
  added d f hnew hd := by
    change (d.fields ++ [f]).map (·.name) |>.Nodup
    rw [List.map_append, List.nodup_append]
    refine ⟨hd, by simp, ?_⟩
    rintro name hname other hother rfl
    obtain rfl := List.mem_singleton.mp hother
    rw [(d.mem_fieldNames f.name).mp hname] at hnew
    cases hnew
  relaxed d name hd := by
    have hnames : (d.fields.map (relaxed name)).map (·.name) = d.fieldNames := by
      rw [List.map_map]
      exact List.map_congr_left fun f _ => name_relaxed name f
    change ((d.fields.map (relaxed name)).map (·.name)).Nodup
    rw [hnames]
    exact hd
  keyed _ _ hd := hd

theorem hasDefault_relaxed (name : String) (f : FieldDeclaration) :
    (relaxed name f).hasDefault = f.hasDefault := by
  unfold Draft.relaxed
  split
  · simp [FieldDeclaration.hasDefault]
  · rfl

theorem stable_field {Q : FieldDeclaration → Prop} (hQ : ∀ name f, Q f → Q (relaxed name f)) :
    Stable fun d => ∃ f ∈ d.fields, Q f where
  added d _ _ := by
    rintro ⟨f, hf, hq⟩
    exact ⟨f, List.mem_append_left _ hf, hq⟩
  relaxed d name := by
    rintro ⟨f, hf, hq⟩
    exact ⟨_, List.mem_map_of_mem hf, hQ name f hq⟩
  keyed _ _ h := h

theorem resembles_relaxed {f g : FieldDeclaration} (h : g.Resembles f) (name : String) :
    (relaxed name g).Resembles f := by
  have hdefault := (hasDefault_relaxed name g).trans h.hasDefault
  unfold Draft.relaxed at hdefault ⊢
  split
  · rename_i hname
    rw [if_pos hname] at hdefault
    exact { h with hasDefault := hdefault }
  · exact h

theorem stable_declaration (d₀ : Declaration) : Stable fun d => d.declaration = d₀ where
  added _ _ _ h := h
  relaxed _ _ h := h
  keyed _ _ h := h

theorem stable_key : Stable fun d => d.key.length ≤ 1 where
  added _ _ _ h := h
  relaxed _ _ h := h
  keyed _ _ _ := Nat.le_refl 1

end Draft

namespace Link

variable {α β : Type} {P : Draft → Prop}

theorem exec_hasField (name : Value) (d : Draft) :
    exec (Link.hasField name) d =
      (if name.isHashable then .ok (d.knows name) else .error (.fault .wrongType), d) := by
  unfold Link.hasField
  cases name with
  | tuple xs => cases (Value.tuple xs).isHashable <;> rfl
  | _ => rfl

def Keeps (P : Draft → Prop) (x : Link α) : Prop :=
  ∀ d, P d → P (exec x d).2

namespace Keeps

theorem pure (a : α) : Keeps P (Pure.pure a : Link α) :=
  fun _ h => h

theorem throw (f : Failure) : Keeps P (MonadExcept.throw f : Link α) :=
  fun _ h => h

theorem get : Keeps P (MonadState.get : Link Draft) :=
  fun _ h => h

theorem bind {x : Link α} {f : α → Link β} (hx : Keeps P x) (hf : ∀ a, Keeps P (f a)) :
    Keeps P (x >>= f) :=
  fun d hd => exec_bind_induct (hx d hd) fun a t _ ht => hf a t ht

theorem forM {f : α → Link Unit} {l : List α} (hf : ∀ a ∈ l, Keeps P (f a)) :
    Keeps P (l.forM f) :=
  fun _ hd => exec_forM_induct hf hd

theorem tryCatch {x : Link α} {f : Failure → Link α} (hx : Keeps P x) (hf : ∀ e, Keeps P (f e)) :
    Keeps P (tryCatchThe Failure x f) := by
  intro d hd
  have hafter := hx d hd
  change P (exec (MonadExcept.tryCatch x f) d).2
  rw [exec_tryCatch]
  rcases h : exec x d with ⟨e | a, t⟩
  · rw [h] at hafter
    exact hf e t hafter
  · rw [h] at hafter
    exact hafter

theorem addField (hP : Draft.Stable P) (f : FieldDeclaration) : Keeps P (Link.addField f) := by
  intro d hd
  unfold Link.addField
  rw [exec_bind_of_ok (exec_get d)]
  split
  · exact hd
  · rename_i hnew
    exact hP.added d f (by simpa using hnew) hd

theorem hasField (name : Value) : Keeps P (Link.hasField name) := by
  intro d hd
  rw [exec_hasField]
  exact hd

theorem getField (name : String) : Keeps P (Link.getField name) := by
  refine .bind .get fun d => ?_
  split
  · exact .pure _
  · exact throw _

theorem relax (hP : Draft.Stable P) (name : String) : Keeps P (Link.updateField name fun f =>
    { f with optional := true, given := "optional" :: f.given }) := by
  intro d hd
  unfold Link.updateField
  rw [exec_bind_of_ok (exec_get d)]
  split
  · exact hP.relaxed d name hd
  · exact hd

theorem keyBy (hP : Draft.Stable P) (name : Value) : Keeps P (Link.keyBy name) :=
  fun d hd => hP.keyed d name hd

end Keeps

end Link

namespace Feature

open Link

variable {P : Draft → Prop}

theorem keeps_addDescribed (hP : Draft.Stable P) (options : Value) :
    Keeps P (addDescribed options) := by
  unfold addDescribed
  split
  · exact .bind (.addField hP _) fun _ => .pure _
  · exact .throw _

theorem keeps_addFlag (hP : Draft.Stable P) (options : Value) :
    Keeps P (Deletion.addFlag options) := by
  unfold Deletion.addFlag
  dsimp only
  split
  · exact .addField hP _
  · refine .bind (.hasField _) fun found => ?_
    split
    · exact .pure _
    · exact .throw _

theorem keeps_addCopies (hP : Draft.Stable P) (options : Value) :
    Keeps P (Localization.addCopies options) := by
  unfold Localization.addCopies
  refine .bind (.hasField _) fun found => ?_
  split
  · refine .bind (.getField _) fun source => ?_
    split
    · exact .bind (.throw _) fun _ => .forM fun _ _ => .addField hP _
    · exact .forM fun _ _ => .addField hP _
  · exact .throw _

theorem keeps_makeOptional (hP : Draft.Stable P) (names : List Value) :
    Keeps P (Nullability.makeOptional names) := by
  induction names with
  | nil => exact .pure _
  | cons name rest ih =>
      refine .bind (.hasField _) fun found => ?_
      split
      · exact .bind (.relax hP _) fun _ => ih
      · exact .throw _

theorem keeps_addStamps (hP : Draft.Stable P) (options : Value) :
    Keeps P (StateTracking.addStamps options) := by
  unfold StateTracking.addStamps
  refine .bind (.hasField _) fun found => ?_
  split
  · refine .bind (.getField _) fun f => ?_
    split
    · exact .forM fun _ _ => .addField hP _
    · exact .throw _
  · exact .throw _

theorem mem_phases_of_callback? {f : Feature} {phase : Phase} {callback : Value → Link Unit}
    (h : f.callback? phase = some callback) : (phase, callback) ∈ f.phases := by
  obtain ⟨front, back, hphases, _⟩ := List.lookup_eq_some_iff.mp h
  rw [hphases]
  simp

theorem keeps_of_mem_builtin (hP : Draft.Stable P) {f : Feature} (hf : f ∈ builtin) {phase : Phase}
    {callback : Value → Link Unit} (hcallback : f.callback? phase = some callback)
    (options : Value) : Keeps P (callback options) := by
  have hphase : (phase, callback) ∈ f.phases := mem_phases_of_callback? hcallback
  simp only [builtin, List.mem_cons, List.not_mem_nil, or_false] at hf
  rcases hf with rfl | rfl | rfl | rfl | rfl | rfl | rfl
  all_goals
    obtain ⟨rfl, rfl⟩ := Prod.mk.inj (List.mem_singleton.mp hphase)
  · exact .bind (keeps_addDescribed hP _) fun _ => .keyBy hP _
  · exact .bind (keeps_addDescribed hP _) fun _ => .pure _
  · exact .bind (keeps_addDescribed hP _) fun _ => .pure _
  · exact keeps_addFlag hP _
  · exact keeps_makeOptional hP _
  · exact keeps_addStamps hP _
  · exact keeps_addCopies hP _

end Feature

end FieldPipeline
