import FieldPipeline.Proofs.Holding
import FieldPipeline.Proofs.Preparation.Spreading

/-!
What is known of an update that was prepared: which record it is about, whether that record was
loaded, which fields it gives values, and how one of these comes to be null.  A value of the input
is null after it was coerced only when it was so before; so a field gets a null that was not given
only by a processor, an activator, a generator or the stamping of a state.
-/

namespace FieldPipeline

open Run

/-! ### Nulls -/

open Feature.StateTracking in
inductive Entity.Alters (e : Entity) (r : Routine) : String → Prop where
  | generated {f : Field} : f ∈ e.fields → f.forceUpdate = true → f.auto = true →
      f.updateByStore = false → Alters e r f.name
  | changed {g : Group} {o : Operation} : g ∈ r.groups → o ∈ g.operations →
      o.kind ≠ .validator → Alters e r g.target
  | stamped {u : FeatureUse} {state : String} : u ∈ e.features →
      u.name = Feature.stateTracking.name →
      Alters e r (stampName (tracked u.options).plain state)

variable {e : Entity} {r : Routine} {equipment : Equipment} {name : String}

theorem Group.writesOnly_altered (hdraws : r.Draws) {g : Group} (hg : g ∈ r.groups) :
    WritesOnly (e.Alters r) (g.apply e) := by
  by_cases hchanges : ∃ o ∈ g.operations, o.kind ≠ .validator
  · obtain ⟨o, ho, hkind⟩ := hchanges
    refine (Group.writesOnly_apply (hdraws g hg)).mono ?_
    rintro _ rfl
    exact .changed hg ho hkind
  · -- validators leave all values as they are
    refine .bind_context fun c => ?_
    split
    · exact .pure _
    · exact .reject _ _
    · split
      · refine .forM fun o ho => .bind_context fun c => ?_
        have hkind : o.kind = .validator := by
          by_contra hkind
          exact hchanges ⟨o, ho, hkind⟩
        rw [hkind]
        exact .ofDraws (Operation.draws_validate (hdraws g hg o ho) _ _)
      · exact .reject _ _

theorem Routine.writesOnly_altered (hdraws : r.Draws) : WritesOnly (e.Alters r) (r.apply e) :=
  .forM fun _ => Group.writesOnly_altered hdraws

theorem Entity.writesOnly_altered (h : e.Sound) (point : RulePoint) :
    WritesOnly (e.Alters r) (e.runRules (Feature.rulesOf Feature.builtin) point) := by
  refine .forM fun u hu s => ?_
  rw [FeatureUse.exec_runRules (h.known u hu)]
  refine (Feature.writes_work u.name point ⟨u, e⟩ s).mono ?_
  rintro _ ⟨hname, hstamped⟩
  obtain ⟨_, rfl, _⟩ := Feature.StateTracking.of_stamped? hstamped
  exact .stamped hu hname

def Record.NullAsGiven (values raw : Record) (name : String) : Prop :=
  ∀ v, values.get? name = some v → v.isNull = true →
    ∃ given, raw.get? name = some given ∧ given.isNull = true

theorem Session.Writes.nullAsGiven {written : String → Prop} {s t : Session}
    (h : Session.Writes written s t) (hname : ¬written name)
    (hs : s.context.latest.NullAsGiven s.context.raw name) :
    t.context.latest.NullAsGiven t.context.raw name := by
  unfold Record.NullAsGiven at hs ⊢
  rw [h.latest name hname, h.raw]
  exact hs

namespace Preparation

theorem nullAsGiven_fillGiven {mode : Mode} {f : Field} {given : Value} {s t : Session}
    (hraw : s.context.raw.get? f.name = some given)
    (h : exec (fillGiven e mode f given) s = (.ok (), t)) :
    t.context.latest.NullAsGiven t.context.raw f.name := by
  obtain ⟨-, w, rfl, hw⟩ := exec_fillGiven_ok h
  intro v hv hnull
  obtain rfl : w = v := by simpa [Session.write] using hv
  rcases hw with ⟨hgiven, -⟩ | ⟨-, hcoerce⟩
  · exact ⟨given, hraw, hgiven⟩
  · rw [Field.isNull_coerce hcoerce] at hnull
    cases hnull

theorem nullAsGiven_fillField (h : e.Sound) (hgenerators : ∀ g ∈ equipment.generators, g.Draws)
    (hname : ¬e.Alters r name) {f : Field} (hf : f ∈ e.fields) {s t : Session}
    (hs : s.context.latest.NullAsGiven s.context.raw name)
    (hfill : exec (fillField equipment e .update f) s = (.ok (), t)) :
    t.context.latest.NullAsGiven t.context.raw name := by
  by_cases hother : name = f.name
  · subst hother
    cases hraw : s.context.raw.get? f.name with
    | none =>
        -- a field that is not given would have to be generated
        have hunfilled : ¬f.Filled s.context.raw := by
          rintro (hgiven | ⟨hforced, hauto, hstore⟩)
          · simp [Record.has, hraw] at hgiven
          · exact hname (.generated hf hforced hauto hstore)
        have hsame := congrArg Prod.snd hfill
        rw [exec_fillField_snd_of_not h hf fun hfills => hunfilled hfills.1] at hsame
        rwa [← show s = t from hsame]
    | some given =>
        unfold fillField at hfill
        rw [exec_bind_of_ok (exec_context s), hraw] at hfill
        exact nullAsGiven_fillGiven hraw hfill
  · exact ((writesOnly_fillField hgenerators).writes hfill).nullAsGiven hother hs

theorem nullAsGiven_later (h : e.Sound) (hrules : equipment.rules = Feature.rulesOf Feature.builtin)
    (hgenerators : ∀ g ∈ equipment.generators, g.Draws) (hdraws : r.Draws)
    (hname : ¬e.Alters r name) {s t : Session} (hempty : s.context.latest = [])
    (hlater : exec (later equipment e r .update) s = (.ok (), t)) :
    t.context.latest.NullAsGiven t.context.raw name := by
  obtain ⟨s₁, s₂, s₃, hfill, happly, hrules₁, hrules₂⟩ := exec_later_ok hlater
  rw [hrules] at hrules₁ hrules₂
  unfold fill at hfill
  rw [exec_bind_of_ok (exec_context _), exec_bind_eq_ok] at hfill
  obtain ⟨_, u, hwarn, hfill⟩ := hfill
  have hbegun : s.context.latest.NullAsGiven s.context.raw name := by
    intro v hv
    rw [hempty] at hv
    cases hv
  have hwarns : Session.Writes (fun _ => False) (s.atPoint .perFieldFill) u :=
    (writesOnly_warnOfUnknown _).writes hwarn
  have hwarned : u.context.latest.NullAsGiven u.context.raw name :=
    hwarns.nullAsGiven id hbegun
  have hfilled : s₁.context.latest.NullAsGiven s₁.context.raw name :=
    exec_forM_ok_induct
      (P := fun s : Session => s.context.latest.NullAsGiven s.context.raw name)
      (fun f hf _ _ hs hfill => nullAsGiven_fillField h hgenerators hname hf hs hfill) hwarned
      hfill
  have happlied : s₂.context.latest.NullAsGiven s₂.context.raw name :=
    Session.Writes.nullAsGiven (s := s₁.atPoint .applyRoutine)
      ((Routine.writesOnly_altered hdraws).writes happly) hname hfilled
  have hstamped : s₃.context.latest.NullAsGiven s₃.context.raw name :=
    Session.Writes.nullAsGiven (s := s₂.atPoint .postValidation)
      ((e.writesOnly_altered h .postDataValidation).writes hrules₁) hname happlied
  exact ((e.writesOnly_altered h _).writes hrules₂).nullAsGiven hname hstamped

end Preparation

/-! ### The record and the fields of an update -/

/-- What an update knows of the record before it: nothing, when nothing asks for it, or else the
record that satisfies its condition. -/
def Preparation.Knows (equipment : Equipment) (e : Entity) (r : Routine) (store : Store)
    (condition raw : Record) (existing : Option Record) : Prop :=
  existing = none ∧ needsFormer equipment.features e r raw = .ok false ∨
    ∃ former, existing = some former ∧ store.findOne e.name condition = some former

namespace Preparation

variable {s t : Session}

theorem exec_identify_ok (hnone : s.context.existing = none)
    (h : exec (identify equipment e r) s = (.ok (), t)) : ∃ condition raw existing,
      e.address s.context.raw s.context.condition = .ok (condition, raw) ∧
        t = { s with context := { s.context with condition := some condition, raw, existing } } ∧
        Knows equipment e r s.store condition raw existing := by
  rw [exec_identify, exec_settleCondition] at h
  rcases haddress : e.address s.context.raw s.context.condition with f | ⟨condition, raw⟩
  · rw [haddress] at h
    cases h
  · rw [haddress] at h
    dsimp only at h
    rw [hnone] at h
    simp only [Option.isNone_none, if_true] at h
    cases hneeds : needsFormer equipment.features e r raw with
    | error f =>
        rw [hneeds] at h
        cases h
    | ok needed =>
        rw [hneeds] at h
        cases needed with
        | false =>
            cases h
            exact ⟨condition, raw, none, rfl, rfl, .inl ⟨rfl, hneeds⟩⟩
        | true =>
            dsimp only at h
            rw [exec_loadFormer] at h
            cases hstore : equipment.hasStore with
            | false =>
                rw [hstore] at h
                cases h
            | true =>
                rw [hstore] at h
                dsimp only [if_true] at h
                cases hfind : s.store.findOne e.name condition with
                | none =>
                    rw [hfind] at h
                    cases h
                | some former =>
                    rw [hfind] at h
                    cases h
                    exact ⟨condition, raw, some former, rfl, rfl, .inr ⟨former, rfl, hfind⟩⟩

theorem writesOnly_later (h : e.Sound) (hrules : equipment.rules = Feature.rulesOf Feature.builtin)
    (hgenerators : ∀ g ∈ equipment.generators, g.Draws) (hdraws : r.Draws) (mode : Mode) :
    WritesOnly (fun _ => True) (later equipment e r mode) := by
  unfold later
  rw [hrules]
  exact .bind (writesOnly_reach _) fun _ =>
    .bind ((writesOnly_fill hgenerators).mono fun _ _ => trivial) fun _ =>
    .bind (writesOnly_reach _) fun _ =>
    .bind ((Routine.writesOnly_apply hdraws).mono fun _ _ => trivial) fun _ =>
    .bind (writesOnly_reach _) fun _ =>
    .bind (e.writesOnly_runRules h _) fun _ => e.writesOnly_runRules h _

/-- An update that was prepared knows the record that it is about, when it has to; it touches every
field to which it gives a value, and alters those that become null without being given so. -/
theorem exec_prepare_update_ok (h : e.Sound)
    (hrules : equipment.rules = Feature.rulesOf Feature.builtin)
    (hgenerators : ∀ g ∈ equipment.generators, g.Draws) (hdraws : r.Draws)
    (hnone : s.context.existing = none) {changes : Record}
    (hprepare : exec (prepare equipment e r .update) s = (.ok changes, t)) :
    ∃ condition raw existing,
      e.address s.context.raw s.context.condition = .ok (condition, raw) ∧
        t.context.condition = some condition ∧ t.context.existing = existing ∧
        t.context.latest = changes ∧ changes.names.Nodup ∧
        Knows equipment e r s.store condition raw existing ∧
        (∀ name, changes.has name = true → e.Touches r raw existing name) ∧
        ∀ name, ¬e.Alters r name → changes.NullAsGiven raw name := by
  obtain ⟨v, u, hidentify, hlater, rfl, rfl⟩ := exec_prepare_ok hprepare
  obtain ⟨condition, raw, existing, haddress, rfl, hknows⟩ := exec_identify_ok
    (s := (s.begun .update).atPoint .resolveExisting) hnone hidentify
  have hwrites := (writesOnly_later h hrules hgenerators hdraws .update).writes hlater
  refine ⟨condition, raw, existing, haddress, hwrites.condition, hwrites.existing, rfl,
    hwrites.nodup List.nodup_nil, hknows,
    touches_later h hrules hgenerators hdraws rfl rfl hlater, fun name hname => ?_⟩
  have hnulls := nullAsGiven_later h hrules hgenerators hdraws hname rfl hlater
  rwa [hwrites.raw] at hnulls

end Preparation

end FieldPipeline
