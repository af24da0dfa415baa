import FieldPipeline.Proofs.Preparation.Difference
import FieldPipeline.Proofs.Preparation.Updating
import FieldPipeline.Proofs.Store

/-!
Whether it can be seen that the record before an update is loaded only when something asks for it.
An update for which it is not loaded gives what it would have given with the record, unless it
comes upon a value that only the record has.  Of the updates that go through, those show it that
overwrite something or leave nulls only.
-/

namespace FieldPipeline

open Run

theorem Feature.Nullability.isNullAfter_congr {c c' : Context} (hlatest : c.latest = c'.latest)
    (hexisting : c.existing = c'.existing) : isNullAfter c = isNullAfter c' := by
  funext name
  unfold isNullAfter
  rw [hlatest, hexisting]

namespace Preparation

variable {e : Entity}

theorem needsFormer_ok (h : e.Sound) (r : Routine) (raw : Record) :
    ∃ needed, needsFormer Feature.builtin e r raw = .ok needed := by
  have hfeatures : ∀ us : List FeatureUse, (∀ u ∈ us, u ∈ e.features) →
      ∃ needed, featuresNeedFormer Feature.builtin raw us = .ok needed := by
    intro us hus
    induction us with
    | nil => exact ⟨false, rfl⟩
    | cons u us ih =>
        obtain ⟨needed, hneeded⟩ := ih fun v hv => hus v (by simp [hv])
        unfold featuresNeedFormer
        cases hfind : (Feature.find? Feature.builtin u.name).bind (·.needsExisting) with
        | none => exact ⟨needed, hneeded⟩
        | some needs =>
            obtain ⟨f, hf, hname, hneeds⟩ := Feature.exists_of_needsExisting hfind
            obtain ⟨asked, hasked⟩ := h.asks u (hus u (by simp)) f hf hname needs hneeds raw
            dsimp only
            rw [hasked]
            cases asked with
            | true => exact ⟨true, rfl⟩
            | false => exact ⟨needed, hneeded⟩
  unfold needsFormer
  split
  · exact ⟨true, rfl⟩
  · split
    · exact ⟨true, rfl⟩
    · exact hfeatures e.features fun _ => id

end Preparation

def Session.identified (condition raw : Record) (s : Session) : Session :=
  { s with context := { s.context with
    mode := some .update
    latest := []
    progress := .resolveExisting
    condition := some condition
    raw } }

namespace Preparation

variable {equipment : Equipment} {e : Entity} {r : Routine} {former condition raw : Record}
  {s : Session}

theorem exec_steps_loaded
    (haddress : e.address s.context.raw s.context.condition = .ok (condition, raw)) :
    exec (steps equipment e r .update) ((s.loaded former).begun .update) =
      exec (later equipment e r .update) ((s.identified condition raw).loaded former) := by
  rw [steps_update, exec_bind_of_ok (exec_reach _ _)]
  refine exec_bind_of_ok (a := ()) ?_ _
  have hsettle := exec_settleCondition_ok
    (s := ((s.loaded former).begun .update).atPoint .resolveExisting) haddress
  rw [exec_identify, hsettle]
  rfl

theorem exec_steps_unloaded (hstore : equipment.hasStore = true)
    (hnone : s.context.existing = none)
    (haddress : e.address s.context.raw s.context.condition = .ok (condition, raw))
    (hfind : s.store.findOne e.name condition = some former) {needed : Bool}
    (hneeds : needsFormer equipment.features e r raw = .ok needed) :
    exec (steps equipment e r .update) (s.begun .update) =
      exec (later equipment e r .update) (if needed then (s.identified condition raw).loaded former
        else s.identified condition raw) := by
  rw [steps_update, exec_bind_of_ok (exec_reach _ _)]
  refine exec_bind_of_ok (a := ()) ?_ _
  have hsettle := exec_settleCondition_ok
    (s := (s.begun .update).atPoint .resolveExisting) haddress
  have hasks : ((s.begun .update).atPoint .resolveExisting).context.existing.isNone = true :=
    congrArg Option.isNone hnone
  rw [exec_identify, hsettle]
  dsimp only
  rw [if_pos hasks, hneeds]
  cases needed with
  | false => rfl
  | true =>
      have hfind' : ((s.begun .update).atPoint .resolveExisting).store.findOne e.name condition =
          some former := hfind
      dsimp only
      rw [exec_loadFormer, if_pos hstore, hfind']
      rfl

theorem exec_prepare_fst (t : Session) : (exec (prepare equipment e r .update) t).1 =
    (exec (steps equipment e r .update) (t.begun .update)).1.map
      fun _ => (exec (steps equipment e r .update) (t.begun .update)).2.context.latest := by
  rw [exec_prepare]
  rcases exec (steps equipment e r .update) (t.begun .update) with ⟨f | _, u⟩ <;> rfl

theorem exec_prepare_fst_loaded (h : e.Sound) (hregular : r.Regular)
    (hnone : s.context.existing = none)
    (haddress : e.address s.context.raw s.context.condition = .ok (condition, raw))
    (hfind : s.store.findOne e.name condition = some former)
    (hconsults : needsFormer Feature.builtin e r raw = .ok false →
      ¬Consults {} e r former (s.identified condition raw)) :
    (exec (prepare {} e r .update) s).1 = (exec (prepare {} e r .update) (s.loaded former)).1 := by
  obtain ⟨needed, hneeds⟩ := needsFormer_ok h r raw
  rw [exec_prepare_fst, exec_prepare_fst, exec_steps_loaded haddress,
    exec_steps_unloaded rfl hnone haddress hfind hneeds]
  cases needed with
  | true => rfl
  | false =>
      -- a value of the input for a field that is written once would have made it needed
      have htouches : touchesWriteOnce e raw = false := by
        by_contra htouches
        unfold needsFormer at hneeds
        rw [if_pos (by simpa using htouches)] at hneeds
        cases hneeds
      have hlater : Ignores former (later {} e r .update) (s.identified condition raw) :=
        ignores_later h hregular rfl (fun g hg => Generator.draws_builtin g hg) rfl hnone
          List.nodup_nil htouches (hconsults hneeds)
      unfold Ignores at hlater
      rw [if_neg Bool.false_ne_true, hlater]
      rfl

theorem kept_of_prepare_loaded (h : e.Sound) (hregular : r.Regular) (horderly : e.Orderly r)
    (haddress : e.address s.context.raw s.context.condition = .ok (condition, raw))
    {changes : Record}
    (hprepare : (exec (prepare {} e r .update) (s.loaded former)).1 = .ok changes) :
    (∀ name, changes.has name = true → ¬e.Settled (some former) name) ∧
      ∀ u ∈ e.features, u.name = Feature.atLeastOneNotNull.name →
        (Feature.Nullability.names u.options).all (Feature.Nullability.isNullAfter
          { s.context with latest := changes, existing := some former }) = false := by
  rw [exec_prepare_fst, exec_steps_loaded haddress] at hprepare
  rcases hlater : exec (later {} e r .update) ((s.identified condition raw).loaded former)
    with ⟨f | _, t⟩
  · rw [hlater] at hprepare
    cases hprepare
  · rw [hlater] at hprepare
    cases hprepare
    have hgenerators : ∀ g ∈ ({} : Equipment).generators, g.Draws :=
      fun g hg => Generator.draws_builtin g hg
    have hwrites := (writesOnly_later h rfl hgenerators hregular.draws .update).writes hlater
    constructor
    · intro name hname hsettled
      exact horderly.not_restamps hsettled <| e.restamps_of_touches hsettled <|
        touches_later h rfl hgenerators hregular.draws rfl rfl hlater name hname
    · intro u hu hname
      obtain ⟨_, _, hstages⟩ := exists_stages h rfl hlater
      rw [← hstages.checked u hu hname]
      exact congrArg _ (Feature.Nullability.isNullAfter_congr rfl hwrites.existing.symm)

/-- An update for which the record before it is loaded when something asks for it gives what it
gives when the record is known from the start, unless it comes upon a value that only the record
has.  What gives it away, when it goes through, is that it overwrites a field that has its last
value in the record, or leaves no value in a list of fields of which one must have a value. -/
theorem exec_prepare_loaded {d : Declaration}
    (hlink : d.link ⟨Feature.builtin, Generator.builtin⟩ = .ok e) {merging : Bool}
    (hcompile : e.compile ModifierTable.builtin merging = .ok r)
    (hnone : s.context.existing = none)
    (haddress : e.address s.context.raw s.context.condition = .ok (condition, raw))
    (hone : (s.store.rows e.name).filter (·.satisfies condition) = [former]) :
    ((needsFormer Feature.builtin e r raw = .ok false →
        ¬Consults {} e r former (s.identified condition raw)) →
      (exec (prepare {} e r .update) s).1 = (exec (prepare {} e r .update) (s.loaded former)).1) ∧
    ∀ changes, e.Orderly r → (exec (prepare {} e r .update) s).1 = .ok changes →
      ((exec (prepare {} e r .update) (s.loaded former)).1 = .ok changes ↔
        (∀ name, changes.has name = true → ¬e.Settled (some former) name) ∧
          ∀ u ∈ e.features, u.name = Feature.atLeastOneNotNull.name →
            (Feature.Nullability.names u.options).all (Feature.Nullability.isNullAfter
              { s.context with latest := changes, existing := some former }) = false) := by
  have hsound := Declaration.sound_of_link rfl hlink
  have hregular := Entity.regular_of_compile hsound.distinct hcompile
  have hfind := Store.findOne_of_filter _ hone
  have hsame := exec_prepare_fst_loaded hsound hregular hnone haddress hfind
  refine ⟨hsame, fun changes horderly hprepare => ⟨?_, fun hkept => ?_⟩⟩
  · exact kept_of_prepare_loaded hsound hregular horderly haddress
  · rw [← hsame ?_, hprepare]
    intro hneeds hconsults
    rw [exec_prepare_fst, exec_steps_unloaded rfl hnone haddress hfind hneeds,
      if_neg Bool.false_ne_true] at hprepare
    rcases hlater : exec (later {} e r .update) (s.identified condition raw) with ⟨f | _, t⟩
    · rw [hlater] at hprepare
      cases hprepare
    · rw [hlater] at hprepare
      cases hprepare
      rcases overwrites_of_consults (s := s.identified condition raw) hsound hregular horderly rfl
        (fun g hg => Generator.draws_builtin g hg) hnone hconsults hlater with
          ⟨name, hname, hsettled⟩ | ⟨u, hu, hname, hall⟩
      · exact hkept.1 name hname hsettled
      · rw [@Feature.Nullability.isNullAfter_congr (t.loaded former).context
          { s.context with latest := t.context.latest, existing := some former } rfl rfl] at hall
        exact Bool.false_ne_true ((hkept.2 u hu hname).symm.trans hall)

/-- A person with a handle that is made from the name for display, once. -/
def personDeclaration : Declaration where
  name := "person"
  fields := [
    { name := "id", type := "integer" },
    { name := "name" },
    { name := "display", optional := true, modifiers := [
      { kind := "Activator", name := "copy", args := [.fieldRef "name"] }] },
    { name := "handle", optional := true, writeOnce := true, modifiers := [
      { kind := "Activator", name := "copy", args := [.fieldRef "display"] }] }]
  key := some (.single "id")

def person : Entity where
  name := "person"
  fields := [
    { name := "id", type := "integer", displayName := "id" },
    { name := "name", displayName := "name" },
    { name := "display", optional := true, displayName := "display", modifiers := [
      { kind := "Activator", name := "copy", args := [.fieldRef "name"] }] },
    { name := "handle", optional := true, writeOnce := true, displayName := "handle",
      modifiers := [
        { kind := "Activator", name := "copy", args := [.fieldRef "display"] }] }]
  key := ["id"]
  uniqueKeys := [["id"]]

theorem link_personDeclaration :
    personDeclaration.link ⟨Feature.builtin, Generator.builtin⟩ = .ok person := rfl

def personRecord (handle : Value) : Record :=
  [("id", .int 1), ("name", .text "a"), ("display", .text "a"), ("handle", handle)]

def personSession (handle : Value) : Session where
  settings := {}
  sources := .still
  store := .ofTables [("person", [personRecord handle])]
  context := { raw := [("name", .text "b")], condition := some [] }

theorem orderly_person {r : Routine} (h : person.compile ModifierTable.builtin true = .ok r) :
    person.Orderly r := by
  cases h
  constructor
  · decide
  · intro u hu
    cases hu

theorem settled_person {handle : Value} {name : String}
    (h : person.Settled (some (personRecord handle)) name) : handle.isNull = false := by
  obtain ⟨honce, former, hformer, hvalue⟩ := h
  cases hformer
  rw [Option.any_eq_true] at honce
  obtain ⟨f, hf, hwritten⟩ := honce
  obtain ⟨hmem, hname⟩ := Entity.mem_of_field? hf
  simp only [person, List.mem_cons, List.not_mem_nil, or_false] at hmem
  rcases hmem with rfl | rfl | rfl | rfl
  · cases hwritten
  · cases hwritten
  · cases hwritten
  · subst hname
    exact hvalue

theorem not_consults_person {r : Routine} (h : person.compile ModifierTable.builtin true = .ok r) :
    ¬Consults {} person r (personRecord .null)
      ((personSession .null).identified [] [("name", .text "b")]) := by
  intro hconsults
  have hsound := Declaration.sound_of_link rfl link_personDeclaration
  have hlater : ∃ t, exec (later {} person r .update)
      ((personSession .null).identified [] [("name", .text "b")]) = (.ok (), t) := by
    cases h
    exact ⟨_, rfl⟩
  obtain ⟨t, hlater⟩ := hlater
  rcases overwrites_of_consults hsound (Entity.regular_of_compile hsound.distinct h)
    (orderly_person h) rfl (fun g hg => Generator.draws_builtin g hg) rfl hconsults hlater with
      ⟨name, _, hsettled⟩ | ⟨u, hu, _⟩
  · cases settled_person hsettled
  · cases hu

/-- A person whose handle is null gets one, whether or not the record is known; but a handle that is
there is overwritten when the record is not known. -/
theorem person_exec_prepare_loaded : ∃ r, person.compile ModifierTable.builtin true = .ok r ∧
    person.Orderly r ∧
    (exec (prepare {} person r .update) (personSession .null)).1 =
      (exec (prepare {} person r .update) ((personSession .null).loaded (personRecord .null))).1 ∧
    (exec (prepare {} person r .update) (personSession (.text "a"))).1 ≠
      (exec (prepare {} person r .update)
        ((personSession (.text "a")).loaded (personRecord (.text "a")))).1 := by
  obtain ⟨r, hr⟩ : ∃ r, person.compile ModifierTable.builtin true = .ok r := ⟨_, rfl⟩
  have horderly := orderly_person hr
  have haddress : ∀ handle, person.address (personSession handle).context.raw
      (personSession handle).context.condition = .ok ([], [("name", .text "b")]) := fun _ => rfl
  have hone : ∀ handle, ((personSession handle).store.rows person.name).filter (·.satisfies []) =
      [personRecord handle] := fun _ => rfl
  have hloaded := fun handle =>
    exec_prepare_loaded link_personDeclaration hr rfl (haddress handle) (hone handle)
  refine ⟨r, hr, horderly, (hloaded .null).1 fun _ => not_consults_person hr, ?_⟩
  have hchanges : (exec (prepare {} person r .update) (personSession (.text "a"))).1 =
      .ok [("name", .text "b"), ("display", .text "b"), ("handle", .text "b")] := by
    cases hr
    rfl
  rw [hchanges]
  intro hsame
  have hkept := ((hloaded (.text "a")).2 _ horderly hchanges).mp hsame.symm
  exact hkept.1 "handle" rfl ⟨rfl, _, rfl, rfl⟩

end Preparation

end FieldPipeline
