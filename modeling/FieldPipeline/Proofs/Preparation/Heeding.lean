import Mathlib.Data.List.Find
import FieldPipeline.Proofs.Preparation.Addressing
import FieldPipeline.Proofs.Preparation.Rules

/-!
What an operation heeds of its input: the values that it has for the fields of the entity.  Neither
the order of the input nor a name in it that is no field makes a difference to anything but the
warnings.
-/

namespace FieldPipeline

open Run

def Record.AgreesOn (names : List String) (r r' : Record) : Prop :=
  ∀ name ∈ names, r'.get? name = r.get? name

namespace Record.AgreesOn

variable {names : List String} {r r' : Record}

theorem has (h : r.AgreesOn names r') {name : String} (hname : name ∈ names) :
    r'.has name = r.has name := by
  unfold Record.has
  rw [h name hname]

theorem getOrNull (h : r.AgreesOn names r') {name : String} (hname : name ∈ names) :
    r'.getOrNull name = r.getOrNull name := by
  unfold Record.getOrNull
  rw [h name hname]

theorem erase (h : r.AgreesOn names r') (key : String) :
    (r.erase key).AgreesOn names (r'.erase key) := by
  intro name hname
  by_cases hkey : key = name
  · rw [hkey, Record.get?_erase_self, Record.get?_erase_self]
  · rw [Record.get?_erase_of_ne _ hkey, Record.get?_erase_of_ne _ hkey, h name hname]

theorem any_names (h : r.AgreesOn names r') {p : String → Bool}
    (hp : ∀ name, p name = true → name ∈ names) : r'.names.any p = r.names.any p := by
  rw [Bool.eq_iff_iff, List.any_eq_true, List.any_eq_true]
  refine exists_congr fun name => and_congr_left fun hname => ?_
  rw [← Record.has_eq_true_iff_mem_names, ← Record.has_eq_true_iff_mem_names,
    h.has (hp name hname)]

theorem takeKey {key : List String} (h : r.AgreesOn names r')
    (hkey : ∀ name ∈ key, name ∈ names) :
    (∃ fault, r.takeKey key = .error fault ∧ r'.takeKey key = .error fault) ∨
    ∃ taken left left', r.takeKey key = .ok (taken, left) ∧ r'.takeKey key = .ok (taken, left') ∧
      left.AgreesOn names left' := by
  induction key generalizing r r' with
  | nil => exact .inr ⟨[], r, r', rfl, rfl, h⟩
  | cons name key ih =>
      obtain ⟨hname, hrest⟩ := List.forall_mem_cons.mp hkey
      unfold Record.takeKey
      rw [h name hname]
      cases r.get? name with
      | none => exact .inl ⟨_, rfl, rfl⟩
      | some v =>
          rcases ih (h.erase name) hrest with
            ⟨fault, htaken, htaken'⟩ | ⟨taken, left, left', htaken, htaken', hleft⟩
          · exact .inl ⟨fault, by simp only [htaken]; rfl, by simp only [htaken']; rfl⟩
          · exact .inr ⟨_, left, left', by simp only [htaken]; rfl, by simp only [htaken']; rfl,
              hleft⟩

end Record.AgreesOn

def Session.given (raw : Record) (warnings : List String) (s : Session) : Session :=
  { s with warnings, context := { s.context with raw } }

namespace Run

variable {α β : Type} {names : List String}

/-- Whether a computation heeds no more of the input than the values under some names. -/
def Heeds (names : List String) (x : Run α) : Prop :=
  ∀ s raw warnings, s.context.raw.AgreesOn names raw → ∃ raw' warnings',
    exec x (s.given raw warnings) = ((exec x s).1, (exec x s).2.given raw' warnings') ∧
      (exec x s).2.context.raw.AgreesOn names raw'

namespace Heeds

theorem pure (a : α) : Heeds names (Pure.pure a : Run α) :=
  fun _ raw warnings h => ⟨raw, warnings, rfl, h⟩

theorem fail (f : Failure) : Heeds names (Run.fail f : Run α) :=
  fun _ raw warnings h => ⟨raw, warnings, rfl, h⟩

theorem setLatest (name : String) (v : Value) : Heeds names (Run.setLatest name v) :=
  fun _ raw warnings h => ⟨raw, warnings, rfl, h⟩

theorem ofDraws {x : Run α} (hx : Draws x) : Heeds names x := by
  obtain ⟨draw, hdraw⟩ := hx
  intro s raw warnings h
  rw [hdraw, hdraw]
  exact ⟨raw, warnings, rfl, h⟩

theorem bind {x : Run α} {f : α → Run β} (hx : Heeds names x) (hf : ∀ a, Heeds names (f a)) :
    Heeds names (x >>= f) := by
  intro s raw warnings h
  obtain ⟨raw', warnings', hexec, h'⟩ := hx s raw warnings h
  rw [exec_bind, exec_bind, hexec]
  rcases hx : exec x s with ⟨e | a, t⟩
  all_goals rw [hx] at h'
  · exact ⟨raw', warnings', rfl, h'⟩
  · exact hf a t raw' warnings' h'

theorem bind_context {f : Context → Run β}
    (hsame : ∀ c raw, c.raw.AgreesOn names raw → f { c with raw } = f c)
    (hf : ∀ c, Heeds names (f c)) : Heeds names (Run.context >>= f) := by
  intro s raw warnings h
  have hgiven : f (s.given raw warnings).context = f s.context := hsame s.context raw h
  rw [exec_bind_of_ok (exec_context _), exec_bind_of_ok (exec_context _), hgiven]
  exact hf s.context s raw warnings h

theorem of_exec_eq {x y : Run α} (h : ∀ s, exec x s = exec y s) (hy : Heeds names y) :
    Heeds names x := by
  intro s raw warnings hraw
  rw [h, h]
  exact hy s raw warnings hraw

theorem forM {f : α → Run Unit} {l : List α} (hf : ∀ a ∈ l, Heeds names (f a)) :
    Heeds names (l.forM f) := by
  induction l with
  | nil => exact pure ()
  | cons a l ih => exact bind (hf a (by simp)) fun _ => ih fun b hb => hf b (by simp [hb])

end Heeds

end Run

namespace Preparation

variable {equipment : Equipment} {e : Entity} {r : Routine} {mode : Mode} {f : Field}
  {names : List String}

theorem heeds_reach (p : Progress) : Heeds names (reach p) :=
  fun _ raw warnings h => ⟨raw, warnings, rfl, h⟩

/-! ### Filling -/

theorem heeds_fillGenerated (hdraws : ∀ g ∈ equipment.generators, g.Draws) :
    Heeds names (fillGenerated equipment e f) :=
  .bind (.bind_context (fun _ _ _ => rfl) fun c =>
    .ofDraws (.explain (f.draws_generate hdraws c.locale) _)) fun v => .setLatest _ v

theorem heeds_fillGiven (v : Value) : Heeds names (fillGiven e mode f v) := by
  refine .bind_context (fun _ _ _ => rfl) fun c => ?_
  split
  · exact .fail _
  · split
    · exact .fail _
    · split
      · split
        · exact .setLatest _ _
        · exact .fail _
      · exact .bind (.ofDraws .settings) fun settings => .bind (.ofDraws (.ofExcept _)) fun value =>
          .setLatest _ value

theorem heeds_fillOnUpdate (hdraws : ∀ g ∈ equipment.generators, g.Draws) :
    Heeds names (fillOnUpdate equipment e f) := by
  refine .bind_context (fun _ _ _ => rfl) fun c => ?_
  split
  · exact .pure _
  · split
    · exact heeds_fillGenerated hdraws
    · exact .fail _

theorem heeds_fillOnCreate (hdraws : ∀ g ∈ equipment.generators, g.Draws) :
    Heeds names (fillOnCreate equipment e f) := by
  unfold fillOnCreate
  split
  · exact .pure _
  · split
    · exact .setLatest _ _
    · split
      · exact heeds_fillGenerated hdraws
      · split
        · exact .pure _
        · exact .fail _

theorem heeds_fillField (hdraws : ∀ g ∈ equipment.generators, g.Draws) (hf : f.name ∈ names) :
    Heeds names (fillField equipment e mode f) := by
  refine .bind_context (fun c raw h => ?_) fun c => ?_
  · dsimp only
    rw [h f.name hf]
  · split
    · exact heeds_fillGiven _
    · cases mode with
      | update => exact heeds_fillOnUpdate hdraws
      | create => exact heeds_fillOnCreate hdraws

theorem heeds_warnOfUnknown :
    Heeds names (do warnOfUnknown e (← Run.context).raw) := by
  have hwarns : ∀ raw s, ∃ warnings,
      exec (warnOfUnknown e raw) s = (.ok (), { s with warnings }) := by
    intro raw s
    unfold warnOfUnknown
    dsimp only
    split
    · exact ⟨s.warnings, rfl⟩
    · exact ⟨_, rfl⟩
  intro s raw warnings h
  obtain ⟨warned, hwarned⟩ := hwarns s.context.raw s
  obtain ⟨warned', hwarned'⟩ := hwarns raw (s.given raw warnings)
  refine ⟨raw, warned', ?_, ?_⟩
  · rw [exec_bind_of_ok (exec_context _), exec_bind_of_ok (exec_context _), hwarned]
    exact hwarned'
  · rw [exec_bind_of_ok (exec_context _), hwarned]
    exact h

theorem heeds_fill (hdraws : ∀ g ∈ equipment.generators, g.Draws) :
    Heeds e.fieldNames (fill equipment e mode) := by
  have hfill : fill equipment e mode = (do
      (do warnOfUnknown e (← Run.context).raw)
      e.fields.forM (fillField equipment e mode)) := by
    rw [bind_assoc]
    rfl
  rw [hfill]
  exact .bind heeds_warnOfUnknown fun _ => .forM fun f hf =>
    heeds_fillField hdraws (List.mem_map_of_mem hf)

end Preparation

/-! ### Applying a routine -/

theorem Operation.heeds_runCalls {names : List String} {entity target : String}
    {kind : ModifierKind} {calls : List Call} (hcalls : ∀ c ∈ calls, c.modifier.Draws) :
    Heeds names (runCalls entity target kind calls) := by
  refine .bind_context (fun _ _ _ => rfl) fun c => ?_
  cases kind with
  | validator => exact .ofDraws (draws_validate hcalls _ _)
  | processor => exact .bind (.ofDraws (draws_process hcalls _ _)) fun _ => .setLatest _ _
  | activator =>
      have hreverse : ∀ c ∈ calls.reverse, c.modifier.Draws := by simpa using hcalls
      refine .bind (.ofDraws (draws_derive? hreverse _)) fun derived => ?_
      split
      · exact .setLatest _ _
      · exact .pure _

theorem Group.heeds_apply {names : List String} {e : Entity} {g : Group}
    (hcalls : ∀ o ∈ g.operations, ∀ c ∈ o.calls, c.modifier.Draws) :
    Heeds names (g.apply e) := by
  refine .bind_context (fun _ _ _ => rfl) fun c => ?_
  split
  · exact .pure _
  · exact .fail _
  · split
    · exact .forM fun o ho => Operation.heeds_runCalls (hcalls o ho)
    · exact .fail _

/-! ### The rules of the features -/

theorem Feature.heeds_work {names : List String} (name : String) (point : RulePoint)
    (facts : Facts) : Heeds names (work name point facts) := by
  unfold work
  cases point with
  | postDataValidation =>
      dsimp only
      split
      · refine .bind_context (fun _ _ _ => rfl) fun c => ?_
        dsimp only
        split
        · exact .pure _
        · split
          · split
            · rename_i f _
              exact .bind (.ofDraws (f.draws_generate (fun g hg => Generator.draws_builtin g hg) _))
                fun v => .setLatest _ v
            · exact .fail _
          · exact .pure _
      · exact .pure _
  | postCreateCheck | postUpdateCheck =>
      dsimp only
      split
      · refine .bind_context (fun _ _ _ => rfl) fun c => ?_
        split
        · exact .fail _
        · exact .pure _
      · exact .pure _
  | beforeCreate | beforeUpdate => exact .pure _

theorem Entity.heeds_runRules {names : List String} {e : Entity} (h : e.Sound)
    (point : RulePoint) :
    Heeds names (e.runRules (Feature.rulesOf Feature.builtin) point) :=
  .forM fun u hu => .of_exec_eq (FeatureUse.exec_runRules (h.known u hu) e point)
    (Feature.heeds_work u.name point ⟨u, e⟩)

/-! ### Finding the record of an update -/

/-- Whether the keys of an entity, a routine and the features consist of fields of the entity. -/
structure Entity.Bound (e : Entity) (r : Routine) : Prop where
  keys : ∀ key ∈ e.uniqueKeys, ∀ name ∈ key, name ∈ e.fieldNames
  groups : ∀ g ∈ r.groups, g.target ∈ e.fieldNames ∧ ∀ name ∈ g.requiredFields, name ∈ e.fieldNames
  listed : ∀ u ∈ e.features, u.name = Feature.atLeastOneNotNull.name →
    ∀ name ∈ Feature.Nullability.names u.options, ∃ s ∈ e.fieldNames, name = .text s
  tracked : ∀ u ∈ e.features, u.name = Feature.stateTracking.name →
    ∃ s ∈ e.fieldNames, Feature.StateTracking.tracked u.options = .text s

theorem Entity.bound_of_compile {catalogue : Catalogue} {d : Declaration} {e : Entity} {r : Routine}
    {table : ModifierTable} {merging : Bool} (hfeatures : catalogue.features = Feature.builtin)
    (hlink : d.link catalogue = .ok e) (hcompile : e.compile table merging = .ok r) :
    e.Bound r where
  keys := (d.keys_of_link hfeatures hlink).2.1
  groups _ hg := e.fields_of_compile hcompile hg
  listed u hu hname name hmem := by
    obtain ⟨f, hf, rfl⟩ := d.listed_of_link hfeatures hlink hu hname name hmem
    exact ⟨f.name, List.mem_map_of_mem hf, rfl⟩
  tracked u hu hname := by
    obtain ⟨f, htracks⟩ := d.tracks_of_link hfeatures hlink hu hname
    exact ⟨f.name, List.mem_map_of_mem htracks.mem, htracks.tracked⟩

namespace Entity.Bound

open Preparation

variable {e : Entity} {r : Routine} {raw raw' : Record} (hbound : e.Bound r)
  (h : raw.AgreesOn e.fieldNames raw')
include hbound h

theorem uniqueKeyIn?_eq : e.uniqueKeyIn? raw' = e.uniqueKeyIn? raw := by
  unfold Entity.uniqueKeyIn?
  refine List.find?_congr fun key hkey => all_congr_of_mem fun name hname => ?_
  rw [h.getOrNull (hbound.keys key hkey name hname)]

theorem address (condition : Option Record) :
    (∃ f, e.address raw condition = .error f ∧ e.address raw' condition = .error f) ∨
    ∃ address left left', e.address raw condition = .ok (address, left) ∧
      e.address raw' condition = .ok (address, left') ∧ left.AgreesOn e.fieldNames left' := by
  unfold Entity.address
  cases condition with
  | some condition => exact .inr ⟨condition, raw, raw', rfl, rfl, h⟩
  | none =>
      dsimp only
      rw [hbound.uniqueKeyIn?_eq h]
      cases hkey : e.uniqueKeyIn? raw with
      | none => exact .inl ⟨_, rfl, rfl⟩
      | some key =>
          have hmem : key ∈ e.uniqueKeys := (Entity.uniqueKeyIn?_eq_some.mp hkey).mem
          rcases h.takeKey (hbound.keys key hmem) with
            ⟨fault, htaken, htaken'⟩ | ⟨taken, left, left', htaken, htaken', hleft⟩
          · exact .inl ⟨.fault fault, by simp only [htaken]; rfl, by simp only [htaken']; rfl⟩
          · exact .inr ⟨taken, left, left', by simp only [htaken]; rfl, by simp only [htaken']; rfl,
              hleft⟩

omit hbound in
theorem touchesWriteOnce_eq : touchesWriteOnce e raw' = touchesWriteOnce e raw := by
  refine h.any_names fun name hname => ?_
  rw [e.mem_fieldNames, Entity.hasField]
  cases hfield : e.field? name with
  | none =>
      rw [hfield] at hname
      cases hname
  | some f => rfl

omit hbound in
theorem contains_changing {name : String} (hname : name ∈ e.fieldNames) :
    (changing e raw').contains name = (changing e raw).contains name := by
  have hgiven : name ∈ raw'.names ↔ name ∈ raw.names := by
    rw [← Record.has_eq_true_iff_mem_names, ← Record.has_eq_true_iff_mem_names, h.has hname]
  rw [Bool.eq_iff_iff, List.contains_iff_mem, List.contains_iff_mem, changing, changing,
    List.mem_append, List.mem_append, hgiven]

theorem runsOn_eq {g : Group} (hg : g ∈ r.groups) :
    runsOn (changing e raw') g = runsOn (changing e raw) g := by
  obtain ⟨htarget, hrequired⟩ := hbound.groups g hg
  unfold runsOn
  rw [contains_changing h htarget,
    any_congr_of_mem fun name hname => contains_changing h (hrequired name hname)]

theorem dependsOnFormer_eq {g : Group} (hg : g ∈ r.groups) :
    dependsOnFormer e raw' g = dependsOnFormer e raw g := by
  unfold dependsOnFormer
  rw [all_congr_of_mem fun name hname => h.has ((hbound.groups g hg).2 name hname)]

theorem needs_eq {u : FeatureUse} (hu : u ∈ e.features) {f : Feature} (hf : f ∈ Feature.builtin)
    (hname : f.name = u.name) {needs : Value → Record → Except Failure Bool}
    (hneeds : f.needsExisting = some needs) : needs u.options raw' = needs u.options raw := by
  simp only [Feature.builtin, List.mem_cons, List.not_mem_nil, or_false] at hf
  rcases hf with rfl | rfl | rfl | rfl | rfl | rfl | rfl
  case inr.inr.inr.inr.inl =>
    cases hneeds
    unfold Feature.Nullability.needsExisting
    refine List.foldr_ext _ _ _ fun name hmem rest => ?_
    obtain ⟨s, hs, rfl⟩ := hbound.listed u hu hname.symm name hmem
    have hvalue : Feature.Nullability.valueUnder? (.text s) raw' =
        Feature.Nullability.valueUnder? (.text s) raw := h s hs
    rw [hvalue]
  case inr.inr.inr.inr.inr.inl =>
    cases hneeds
    obtain ⟨s, hs, htracked⟩ := hbound.tracked u hu hname.symm
    unfold Feature.StateTracking.needsExisting
    rw [htracked]
    dsimp only
    rw [h.has hs]
  all_goals cases hneeds

theorem featuresNeedFormer_eq {us : List FeatureUse} (hus : ∀ u ∈ us, u ∈ e.features) :
    featuresNeedFormer Feature.builtin raw' us = featuresNeedFormer Feature.builtin raw us := by
  induction us with
  | nil => rfl
  | cons u us ih =>
      have hrest := ih fun v hv => hus v (by simp [hv])
      unfold featuresNeedFormer
      cases hfind : (Feature.find? Feature.builtin u.name).bind (·.needsExisting) with
      | none => exact hrest
      | some needs =>
          obtain ⟨f, hf, hname, hneeds⟩ := Feature.exists_of_needsExisting hfind
          dsimp only
          rw [hbound.needs_eq h (hus u (by simp)) hf hname hneeds, hrest]

theorem needsFormer_eq :
    needsFormer Feature.builtin e r raw' = needsFormer Feature.builtin e r raw := by
  have hgroups : (r.groups.any fun g =>
        runsOn (changing e raw') g && dependsOnFormer e raw' g) =
      r.groups.any fun g => runsOn (changing e raw) g && dependsOnFormer e raw g :=
    any_congr_of_mem fun g hg => by rw [hbound.runsOn_eq h hg, hbound.dependsOnFormer_eq h hg]
  unfold needsFormer
  rw [touchesWriteOnce_eq h, hgroups, hbound.featuresNeedFormer_eq h fun _ => id]

end Entity.Bound

namespace Preparation

variable {equipment : Equipment} {e : Entity} {r : Routine} {mode : Mode}

theorem heeds_settleCondition (hbound : e.Bound r) : Heeds e.fieldNames (settleCondition e) := by
  intro s raw warnings h
  rcases hbound.address h s.context.condition with
    ⟨f, haddress, haddress'⟩ | ⟨condition, left, left', haddress, haddress', hleft⟩
  · have hgiven := exec_settleCondition_error (s := s.given raw warnings) haddress'
    rw [hgiven, exec_settleCondition_error haddress]
    exact ⟨raw, warnings, rfl, h⟩
  · have hgiven := exec_settleCondition_ok (s := s.given raw warnings) haddress'
    rw [hgiven, exec_settleCondition_ok haddress]
    exact ⟨left', warnings, rfl, hleft⟩

theorem heeds_loadFormer {names : List String} (condition : Record) :
    Heeds names (loadFormer equipment e condition) := by
  intro s raw warnings h
  have hstore : (s.given raw warnings).store = s.store := rfl
  rw [exec_loadFormer, exec_loadFormer, hstore]
  split
  · split
    · exact ⟨raw, warnings, rfl, h⟩
    · exact ⟨raw, warnings, rfl, h⟩
  · exact ⟨raw, warnings, rfl, h⟩

theorem heeds_identify (hbound : e.Bound r) (hfeatures : equipment.features = Feature.builtin) :
    Heeds e.fieldNames (identify equipment e r) := by
  unfold identify
  rw [hfeatures]
  refine .bind (heeds_settleCondition hbound) fun condition => .bind_context ?_ fun c => ?_
  · intro c raw h
    dsimp only
    rw [hbound.needsFormer_eq h]
  · split
    · refine .bind (.ofDraws (.ofExcept _)) fun needed => ?_
      split
      · exact heeds_loadFormer condition
      · exact .pure _
    · exact .pure _

section

variable (h : e.Sound) (hbound : e.Bound r) (hfeatures : equipment.features = Feature.builtin)
  (hrules : equipment.rules = Feature.rulesOf Feature.builtin)
  (hgenerators : ∀ g ∈ equipment.generators, g.Draws) (hdraws : r.Draws)
include h hbound hfeatures hrules hgenerators hdraws

theorem heeds_steps : Heeds e.fieldNames (steps equipment e r mode) := by
  have hlater : Heeds e.fieldNames (later equipment e r mode) := by
    unfold later
    rw [hrules]
    exact .bind (heeds_reach _) fun _ => .bind (heeds_fill hgenerators) fun _ =>
      .bind (heeds_reach _) fun _ =>
      .bind (.forM fun g hg => Group.heeds_apply (hdraws g hg)) fun _ =>
      .bind (heeds_reach _) fun _ => .bind (e.heeds_runRules h _) fun _ => e.heeds_runRules h _
  cases mode with
  | create =>
      rw [steps_create]
      exact hlater
  | update =>
      rw [steps_update]
      exact .bind (heeds_reach _) fun _ => .bind (heeds_identify hbound hfeatures) fun _ => hlater

theorem heeds_prepare : Heeds e.fieldNames (prepare equipment e r mode) := by
  intro s raw warnings hraw
  have hsteps : Heeds e.fieldNames (steps equipment e r mode) :=
    heeds_steps h hbound hfeatures hrules hgenerators hdraws
  obtain ⟨raw', warnings', hexec, hraw'⟩ := hsteps (s.begun mode) raw warnings hraw
  have hbegun : (s.given raw warnings).begun mode = (s.begun mode).given raw warnings := rfl
  rw [exec_prepare, exec_prepare, hbegun, hexec]
  rcases hends : exec (steps equipment e r mode) (s.begun mode) with ⟨f | _, t⟩ <;>
    rw [hends] at hraw'
  · dsimp only
    unfold Session.failed
    split <;> exact ⟨raw', warnings', rfl, hraw'⟩
  · exact ⟨raw', warnings', rfl, hraw'⟩

end

/-- Whatever an operation makes of its input, it makes of the values that the input has for the
fields of the entity.  With another input that has the same values for them, in any order and next
to anything else, it ends in the same values or the same failure, and in a session that differs in
nothing but the rest of the input and the warnings. -/
theorem exec_prepare_given {catalogue : Catalogue} {d : Declaration} {merging : Bool}
    (hcatalogue : catalogue.features = Feature.builtin) (hlink : d.link catalogue = .ok e)
    (hcompile : e.compile ModifierTable.builtin merging = .ok r)
    (hfeatures : equipment.features = Feature.builtin)
    (hrules : equipment.rules = Feature.rulesOf Feature.builtin)
    (hgenerators : ∀ g ∈ equipment.generators, g.Draws) {s : Session} {raw : Record}
    (hraw : ∀ name ∈ e.fieldNames, raw.get? name = s.context.raw.get? name)
    (warnings : List String) :
    ∃ raw' warnings', exec (prepare equipment e r mode) (s.given raw warnings) =
        ((exec (prepare equipment e r mode) s).1,
          (exec (prepare equipment e r mode) s).2.given raw' warnings') ∧
      ∀ name ∈ e.fieldNames, raw'.get? name =
        (exec (prepare equipment e r mode) s).2.context.raw.get? name :=
  heeds_prepare (d.sound_of_link hcatalogue hlink) (e.bound_of_compile hcatalogue hlink hcompile)
    hfeatures hrules hgenerators
    (Entity.draws_of_compile (fun _ hm => ModifierTable.draws_builtin hm) hcompile) s raw warnings
    hraw

theorem patron_heeds : ∃ t, exec (prepare {} patron patronRoutine .update)
      (revising [("nick", .int 7), ("id", .int 1), ("name", .text "b")]) =
        (.ok [("name", .text "b")], t) ∧ t.context.condition = some [("id", .int 1)] := by
  have hraw : ∀ name ∈ patron.fieldNames,
      Record.get? name [("nick", .int 7), ("id", .int 1), ("name", .text "b")] =
        Record.get? name [("name", .text "b"), ("id", .int 1)] :=
    List.forall_mem_cons.mpr ⟨rfl, List.forall_mem_singleton.mpr rfl⟩
  have hcompile : patron.compile ModifierTable.builtin true = .ok patronRoutine := rfl
  have hgenerators : ∀ g ∈ ({} : Equipment).generators, g.Draws :=
    fun g hg => Generator.draws_builtin g hg
  obtain ⟨raw, warnings, hexec, -⟩ := exec_prepare_given
    (s := revising [("name", .text "b"), ("id", .int 1)]) rfl link_patronDeclaration hcompile rfl
    rfl hgenerators hraw []
  exact ⟨_, hexec, rfl⟩

end Preparation

end FieldPipeline
