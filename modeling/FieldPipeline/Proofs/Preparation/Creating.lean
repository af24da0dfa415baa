import FieldPipeline.Proofs.Preparation.Consulting
import FieldPipeline.Proofs.Preparation.Lacking

/-!
Creations for which a record is known all the same.  Neither the guards nor the policies of a
creation look at it; but a group that runs takes from it what it needs and the new values lack, and
the time of a state that the record has is not written.  Where neither happens, what is created is
the same whatever the record.
-/

namespace FieldPipeline

open Run

def Session.knowing (existing : Option Record) (s : Session) : Session :=
  { s with context := { s.context with existing } }

namespace Group

/-- Whether a group that runs comes upon a value that is not among the new ones but in the record
from before. -/
def Seeks (e : Entity) (former : Record) (c : Context) (g : Group) : Prop :=
  g.verdict e c = .run ∧ ∃ name, former.has name = true ∧ c.latest.has name = false ∧
    (name ∈ g.requiredFields ∨ ∃ o ∈ g.operations, ∃ call ∈ o.calls, name ∈ call.reads)

variable {e : Entity} {g : Group} {former : Record} {s : Session}

theorem verdict_loaded_of_create (hmode : s.context.mode = some .create) :
    g.verdict e (s.loaded former).context = g.verdict e s.context := by
  have hmode' : (s.loaded former).context.mode = some .create := hmode
  unfold verdict
  simp only [hmode, hmode', Option.some.injEq, reduceCtorEq, decide_false, Bool.false_and,
    Bool.false_eq_true, if_false]
  rfl

theorem ignores_apply_of_create (hregular : ∀ o ∈ g.operations, ∀ c ∈ o.calls, c.Regular o.kind)
    (hmode : s.context.mode = some .create) (hnone : s.context.existing = none)
    (hnodup : s.context.latest.names.Nodup) (h : ¬g.Seeks e former s.context) :
    Ignores former (g.apply e) s := by
  refine ignores_apply_of_verdict hregular hnone hnodup (verdict_loaded_of_create hmode) ?_
  intro hrun name hhas hsought
  by_contra hlacks
  exact h ⟨hrun, name, hhas, by simpa using hlacks, hsought⟩

end Group

namespace Preparation

variable {equipment : Equipment} {e : Entity} {r : Routine} {former : Record} {s : Session}

theorem ignores_fillField_create (hdraws : ∀ g ∈ equipment.generators, g.Draws) (f : Field) :
    Ignores former (fillField equipment e .create f) s := by
  have hmade : Ignores former (fillGenerated equipment e f) s := ignores_fillGenerated hdraws
  refine .bind_context rfl ?_
  split
  · exact ignores_fillGiven (fun h => by cases h) _
  · dsimp only
    unfold fillOnCreate
    split
    · exact .pure _
    · split
      · exact .setLatest _ _
      · split
        · exact hmade
        · split
          · exact .pure _
          · exact .reject _ _

def giving (equipment : Equipment) (e : Entity) : Run Unit := do
  reach .perFieldFill
  fill equipment e .create
  reach .applyRoutine

def completing (equipment : Equipment) (e : Entity) (r : Routine) : Run Unit := do
  giving equipment e
  r.apply e
  reach .postValidation

theorem later_create (equipment : Equipment) (e : Entity) (r : Routine) :
    later equipment e r .create = (do
      completing equipment e r
      e.runRules equipment.rules .postDataValidation
      e.runRules equipment.rules .postCreateCheck) := by
  unfold later completing giving
  simp only [bind_assoc]
  rfl

/-- Whether a creation for which no record is known comes upon a value that a record from before
would have. -/
inductive Seeks (equipment : Equipment) (e : Entity) (r : Routine) (former : Record)
    (s : Session) : Prop where
  | applies {done rest : List Group} {g : Group} {t : Session} :
      r.groups = done ++ g :: rest →
      exec (do giving equipment e; done.forM (Group.apply e)) s = (.ok (), t) →
      g.Seeks e former t.context → Seeks equipment e r former s
  | stamps {done rest : List FeatureUse} {u : FeatureUse} {t : Session} :
      e.features = done ++ u :: rest →
      exec (do
        completing equipment e r
        done.forM (FeatureUse.runRules equipment.rules e .postDataValidation)) s = (.ok (), t) →
      u.Consults former t.context .postDataValidation → Seeks equipment e r former s

theorem ignores_giving (hdraws : ∀ g ∈ equipment.generators, g.Draws) :
    Ignores former (giving equipment e) s := by
  refine .bind (ignores_reach _) fun _ t _ => .bind ?_ fun _ _ _ => ignores_reach _
  refine .bind_context rfl (.bind ?_ fun _ _ _ => .forM fun _ f _ _ _ _ =>
    ignores_fillField_create hdraws f)
  unfold warnOfUnknown
  dsimp only
  split
  · exact .pure _
  · rfl

theorem writesOnly_giving (hgenerators : ∀ g ∈ equipment.generators, g.Draws) :
    WritesOnly (fun _ => True) (giving equipment e) :=
  .bind (writesOnly_reach _) fun _ =>
    .bind ((writesOnly_fill hgenerators).mono fun _ _ => trivial) fun _ => writesOnly_reach _

theorem writesOnly_completing (hgenerators : ∀ g ∈ equipment.generators, g.Draws)
    (hregular : r.Regular) : WritesOnly (fun _ => True) (completing equipment e r) :=
  .bind (writesOnly_giving hgenerators) fun _ =>
    .bind ((Routine.writesOnly_apply hregular.draws).mono fun _ _ => trivial) fun _ =>
      writesOnly_reach _

theorem ignores_completing (hregular : r.Regular)
    (hgenerators : ∀ g ∈ equipment.generators, g.Draws)
    (hmode : s.context.mode = some .create) (hnone : s.context.existing = none)
    (hnodup : s.context.latest.names.Nodup) (hseeks : ¬Seeks equipment e r former s) :
    Ignores former (completing equipment e r) s := by
  refine .bind (ignores_giving hgenerators) fun _ t ht => ?_
  have hgiven := (writesOnly_giving hgenerators).writes ht
  refine .bind (.forM fun done g rest u hgroups hdone => ?_) fun _ _ _ => ignores_reach _
  have happlied := hregular.draws.writes_before hgroups hdone
  have hwrites := hgiven.trans (happlied.mono fun _ _ => trivial)
  refine Group.ignores_apply_of_create (hregular.calls g (by simp [hgroups]))
    (hwrites.mode.trans hmode) (hwrites.existing.trans hnone) (hwrites.nodup hnodup)
    fun hg => hseeks (.applies hgroups ?_ hg)
  rw [exec_bind_of_ok ht]
  exact hdone

theorem ignores_later_create (h : e.Sound) (hregular : r.Regular)
    (hrules : equipment.rules = Feature.rulesOf Feature.builtin)
    (hgenerators : ∀ g ∈ equipment.generators, g.Draws)
    (hmode : s.context.mode = some .create) (hnone : s.context.existing = none)
    (hnodup : s.context.latest.names.Nodup) (hseeks : ¬Seeks equipment e r former s) :
    Ignores former (later equipment e r .create) s := by
  have hcompletes := writesOnly_completing (e := e) hgenerators hregular
  rw [later_create]
  refine .bind (ignores_completing hregular hgenerators hmode hnone hnodup hseeks) fun _ t ht => ?_
  have hnone' : t.context.existing = none := (hcompletes.writes ht).existing.trans hnone
  rw [hrules]
  refine .bind (e.ignores_runRules h hnone' fun done u rest w hl hdone hu => ?_) fun _ w hw => ?_
  · refine hseeks (.stamps hl ?_ hu)
    rw [exec_bind_of_ok ht, hrules]
    exact hdone
  · -- No rule that comes after a creation looks at the record.
    refine e.ignores_runRules h ?_ fun _ _ _ _ _ _ hu => hu
    exact ((e.writesOnly_runRules h _).writes hw).existing.trans hnone'

def created (e : Entity) (r : Routine) (s : Session) (existing : Option Record) :
    Except Failure Record :=
  (exec (prepare {} e r .create) (s.knowing existing)).1

theorem created_eq (e : Entity) (r : Routine) (s : Session) (existing : Option Record) :
    created e r s existing =
      (exec (later {} e r .create) ((s.knowing existing).begun .create)).1.map fun _ =>
        (exec (later {} e r .create) ((s.knowing existing).begun .create)).2.context.latest := by
  unfold created
  rw [exec_prepare, steps_create]
  rcases exec (later {} e r .create) ((s.knowing existing).begun .create) with ⟨f | _, t⟩ <;> rfl

theorem created_of_not_seeks (h : e.Sound) (hregular : r.Regular)
    (hseeks : ¬Seeks {} e r former ((s.knowing none).begun .create)) :
    created e r s (some former) = created e r s none := by
  have hlater : Ignores former (later {} e r .create) ((s.knowing none).begun .create) :=
    ignores_later_create h hregular rfl (fun g hg => Generator.draws_builtin g hg) rfl rfl
      List.nodup_nil hseeks
  have hknown : (s.knowing (some former)).begun .create =
      ((s.knowing none).begun .create).loaded former := rfl
  unfold Ignores at hlater
  rw [created_eq, created_eq, hknown, hlater]
  rfl

end Preparation

def Routine.NeedsReads (r : Routine) : Prop :=
  ∀ g ∈ r.groups, ∀ o ∈ g.operations, ∀ c ∈ o.calls, ∀ name ∈ c.reads,
    name ∈ g.requiredFields ∨ g.requireTarget = true ∧ name = g.target

/-- Whether a record has the time of a state that is not to be written again. -/
def Entity.Times (e : Entity) (former : Record) : Prop :=
  ∃ u ∈ e.features, u.name = Feature.stateTracking.name ∧
    Feature.StateTracking.isReversible u.options = false ∧
    ∃ state, (former.getOrNull (Feature.StateTracking.stampName
      (Feature.StateTracking.tracked u.options).plain state)).isNull = false

namespace Preparation

variable {e : Entity} {r : Routine} {former : Record} {s t : Session}

theorem not_seeks_of_apply {g : Group} (hg : g ∈ r.groups) (hreads : r.NeedsReads)
    (hnone : s.context.existing = none) (h : exec (g.apply e) s = (.ok (), t)) :
    ¬g.Seeks e former s.context := by
  rintro ⟨hverdict, name, -, hlacks, hsought⟩
  have hneeded : name ∈ g.requiredFields ∨ g.requireTarget = true ∧ name = g.target := by
    rcases hsought with hrequired | ⟨o, ho, c, hc, hread⟩
    · exact .inl hrequired
    · exact hreads g hg o ho c hc name hread
  rcases hneeded with hrequired | ⟨hrequire, rfl⟩
  · rw [Group.has_of_mem_requiredFields hverdict hnone h hrequired] at hlacks
    cases hlacks
  · unfold Group.verdict at hverdict
    simp only [hrequire, if_true, (Record.get?_eq_none_iff _ _).mpr hlacks] at hverdict
    split at hverdict <;> cases hverdict

theorem not_seeks_of_later (hregular : r.Regular) (hreads : r.NeedsReads)
    (htimes : ¬e.Times former) (hnone : s.context.existing = none)
    (h : exec (later {} e r .create) s = (.ok (), t)) : ¬Seeks {} e r former s := by
  rintro (⟨hgroups, hdone, hseeks⟩ | ⟨hfeatures, hdone, hconsults⟩)
  · rename_i done rest g u
    obtain ⟨_, v, hgiving, hbefore⟩ := exec_bind_eq_ok.mp hdone
    rw [later_create, exec_bind_eq_ok] at h
    obtain ⟨_, w, hcompleting, -⟩ := h
    unfold completing at hcompleting
    rw [exec_bind_of_ok hgiving, exec_bind_eq_ok] at hcompleting
    obtain ⟨_, w', happly, -⟩ := hcompleting
    unfold Routine.apply at happly
    rw [hgroups] at happly
    -- The whole run went through, and with it the group, from the session that it is said to meet.
    obtain ⟨u', v', hbefore', hg, -⟩ := exec_forM_ok_split happly
    cases hbefore.symm.trans hbefore'
    have hgiven := (writesOnly_giving fun g hg => Generator.draws_builtin g hg).writes hgiving
    have happlied := hregular.draws.writes_before hgroups hbefore
    exact not_seeks_of_apply (by simp [hgroups]) hreads
      (happlied.existing.trans (hgiven.existing.trans hnone)) hg hseeks
  · rename_i done rest u v
    obtain ⟨hname, hreversible, name, hstamped, hformer⟩ := hconsults
    obtain ⟨-, rfl, -⟩ := Feature.StateTracking.of_stamped? hstamped
    exact htimes ⟨u, by simp [hfeatures], hname, hreversible, _, hformer⟩

/-- What a creation gives is the same for all records from which it seeks nothing, and for none.
It is never refused for want of a value that the record has.  And when it goes through without a
record, it gives the same with one that has no time that is not to be written again, if the groups
need what they read. -/
theorem created_knowing {d : Declaration}
    (hlink : d.link ⟨Feature.builtin, Generator.builtin⟩ = .ok e) {merging : Bool}
    (hcompile : e.compile ModifierTable.builtin merging = .ok r) (s : Session) :
    (∀ x y : Option Record,
      (∀ former ∈ x, ¬Seeks {} e r former ((s.knowing none).begun .create)) →
      (∀ former ∈ y, ¬Seeks {} e r former ((s.knowing none).begun .create)) →
      created e r s x = created e r s y) ∧
    (∀ former f, (∃ name ∈ f.lacking, former.has name = true) →
      created e r s (some former) ≠ .error f) ∧
    ∀ former values, created e r s none = .ok values → r.NeedsReads → ¬e.Times former →
      created e r s (some former) = .ok values := by
  have hsound := d.sound_of_link rfl hlink
  have hregular := Entity.regular_of_compile hsound.distinct hcompile
  have hsame : ∀ x : Option Record,
      (∀ former ∈ x, ¬Seeks {} e r former ((s.knowing none).begun .create)) →
      created e r s x = created e r s none := by
    intro x hx
    cases x with
    | none => rfl
    | some former => exact created_of_not_seeks hsound hregular (hx former rfl)
  refine ⟨fun x y hx hy => (hsame x hx).trans (hsame y hy).symm, ?_, ?_⟩
  · rintro former f ⟨name, hname, hhas⟩ hrefused
    rw [created_eq] at hrefused
    rcases hlater : exec (later {} e r .create) ((s.knowing (some former)).begun .create)
      with ⟨g | _, t⟩
    · rw [hlater] at hrefused
      cases hrefused
      have hlacks := former_of_lacking hsound (d.known_of_link rfl hlink) hcompile rfl hlater hname
      rw [hhas] at hlacks
      cases hlacks
    · rw [hlater] at hrefused
      cases hrefused
  · intro former values hvalues hreads htimes
    rw [← hvalues]
    rw [created_eq] at hvalues
    rcases hlater : exec (later {} e r .create) ((s.knowing none).begun .create) with ⟨g | _, t⟩
    · rw [hlater] at hvalues
      cases hvalues
    · exact hsame (some former) fun former' hformer' => by
        cases hformer'
        exact not_seeks_of_later hregular hreads htimes rfl hlater

def memberDeclaration : Declaration where
  name := "member"
  fields := [
    { name := "nick", optional := true },
    { name := "display", optional := true, modifiers := [
      { kind := "Activator", name := "copy", args := [.fieldRef "nick"] }] }]

def member : Entity where
  name := "member"
  fields := [
    { name := "nick", optional := true, displayName := "nick" },
    { name := "display", optional := true, displayName := "display", modifiers := [
      { kind := "Activator", name := "copy", args := [.fieldRef "nick"] }] }]

theorem link_memberDeclaration :
    memberDeclaration.link ⟨Feature.builtin, Generator.builtin⟩ = .ok member := rfl

def newMember (raw : Record) : Session where
  settings := {}
  sources := .still
  context := { raw }

/-- The nickname of a new member does not depend on what is known from before; but one without a
nickname is refused, unless a record with a nickname is known. -/
theorem member_created_knowing : ∃ r, member.compile ModifierTable.builtin true = .ok r ∧
    (∀ x y, created member r (newMember [("nick", .text "b")]) x =
      created member r (newMember [("nick", .text "b")]) y) ∧
    created member r (newMember []) (some [("nick", .text "a")]) ≠
      created member r (newMember []) none := by
  obtain ⟨r, hr⟩ : ∃ r, member.compile ModifierTable.builtin true = .ok r := ⟨_, rfl⟩
  have hknowing := created_knowing link_memberDeclaration hr
  refine ⟨r, hr, fun x y => ?_, ?_⟩
  · have hsound := Declaration.sound_of_link rfl link_memberDeclaration
    have hregular := Entity.regular_of_compile hsound.distinct hr
    have hreads : r.NeedsReads := by
      cases hr
      unfold Routine.NeedsReads
      decide
    have htimes : ∀ former, ¬member.Times former := by
      rintro former ⟨u, hu, -⟩
      cases hu
    obtain ⟨t, hlater⟩ : ∃ t, exec (later {} member r .create)
        (((newMember [("nick", .text "b")]).knowing none).begun .create) = (.ok (), t) := by
      cases hr
      exact ⟨_, rfl⟩
    have hseeks := fun former => not_seeks_of_later hregular hreads (htimes former) rfl hlater
    exact (hknowing _).1 x y (fun former _ => hseeks former) fun former _ => hseeks former
  · have hrefused : created member r (newMember []) none =
        .error (.rejected ⟨some "member", .dependencyMissing "display" ["nick"]⟩) := by
      cases hr
      rfl
    rw [hrefused]
    exact (hknowing _).2.1 _ _ ⟨"nick", List.mem_singleton.mpr rfl, rfl⟩

end Preparation

end FieldPipeline
